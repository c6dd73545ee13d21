import Hxrpc.Server.Input
import Hxrpc.Server.Reactor

/-!
# The invariant of the tables

At every moment between two callbacks each descriptor number is vacant, the listener, or one open
connection on which all tables agree.  The buffers of an open connection are what its journal says,
and the journal of every socket, open or closed, answers exactly the frames of the bytes that were
received on it before its last `EAGAIN`.
-/

namespace Hxrpc

open StreamCut ConnectionManager

/-- The buffers of an open connection and the journal of its socket agree. -/
structure Live (respond : Bytes → Bytes) (journal : Journal) (connection : ConnectionState) :
    Prop where
  handed : journal.handed = journal.received
  delivered : journal.delivered = (frameCutter.split journal.received).items
  residue : connection.inputBuffer = (frameCutter.split journal.received).residue
  stays_open : (frameCutter.split journal.received).rejected = false
  balanced : journal.Balanced respond connection.pending

/-- The journal of a socket: the delivered frames are those of the bytes received before the last
`EAGAIN`, and they were answered in order. -/
structure Sound (respond : Bytes → Bytes) (journal : Journal) : Prop where
  delivered : journal.delivered = (frameCutter.split journal.handed).items
  balanced : ∃ pending, journal.Balanced respond pending

theorem Live.sound {respond : Bytes → Bytes} {journal : Journal} {connection : ConnectionState}
    (live : Live respond journal connection) : Sound respond journal :=
  ⟨live.handed ▸ live.delivered, ⟨_, live.balanced⟩⟩

/-- What the kernel took of an open connection that has nothing left to send. -/
theorem Live.accepted_eq {respond : Bytes → Bytes} {journal : Journal}
    {connection : ConnectionState} (live : Live respond journal connection)
    (drained : connection.outputBuffer = []) :
    journal.accepted = (frameCutter.split journal.received).items.flatMap respond := by
  have nothing_pending : connection.pending = [] := by simp [ConnectionState.pending, drained]
  have whole := live.balanced.accepted_append
  rw [nothing_pending, List.append_nil] at whole
  rw [whole, live.balanced.submitted_eq, live.delivered]

theorem live_nil (respond : Bytes → Bytes) (incarnation : Nat) :
    Live respond [] { incarnation := incarnation } where
  handed := rfl
  delivered := by simp [frameCutter_split_nil]
  residue := by simp [frameCutter_split_nil]
  stays_open := by simp [frameCutter_split_nil]
  balanced := Journal.balanced_nil respond

theorem sound_nil (respond : Bytes → Bytes) : Sound respond [] :=
  (live_nil respond 0).sound

/-- The tables describe the listening descriptor. -/
structure Listening {App : Type} (server : Server App) (fd : Fd) : Prop where
  is_listener : fd = server.listenFd
  valid : fd ≠ -1
  entry : server.connections fd = none
  handler : server.handlers fd = some listenHandler
  interest : server.epoll fd = some listenHandler.events
  descriptor : server.descriptors fd = some .listener

/-- What the tables say about one descriptor number. -/
inductive Slot {App : Type} (respond : Bytes → Bytes) (server : Server App) (fd : Fd) : Prop where
  | vacant (gone : Gone server fd) (unused : fd = server.listenFd → fd = -1)
  | listener (listening : Listening server fd)
  | connection (connection : ConnectionState) (events : Events)
      (opened : Open server fd connection events) (tidy : Tidy connection events)
      (live : Live respond (server.journal connection.incarnation) connection)
      (numbered : connection.incarnation < server.accepted) (valid : 0 ≤ fd)

/-- The invariant of the server between two callbacks. -/
structure Consistent {App : Type} (holds : App → Prop) (respond : Bytes → Bytes)
    (server : Server App) : Prop where
  app : holds server.app
  slots : ∀ fd, Slot respond server fd
  distinct : ∀ {left right first second}, server.connections left = some first →
    server.connections right = some second → first.incarnation = second.incarnation → left = right
  fresh : ∀ incarnation, server.accepted ≤ incarnation → server.journal incarnation = []
  sound : ∀ incarnation, Sound respond (server.journal incarnation)

section Consequences

variable {App : Type} {holds : App → Prop} {respond : Bytes → Bytes} {server : Server App}

/-- An entry of `connections_` is an open connection. -/
theorem Consistent.opened (consistent : Consistent holds respond server) {fd : Fd}
    {connection : ConnectionState} (entry : server.connections fd = some connection) :
    ∃ events, Open server fd connection events ∧ Tidy connection events ∧
      Live respond (server.journal connection.incarnation) connection ∧
      connection.incarnation < server.accepted ∧ 0 ≤ fd := by
  cases consistent.slots fd with
  | vacant gone unused => simp [gone.entry] at entry
  | listener listening => simp [listening.entry] at entry
  | connection found events opened tidy live numbered valid =>
      obtain rfl : found = connection := Option.some.inj (opened.entry.symm.trans entry)
      exact ⟨events, opened, tidy, live, numbered, valid⟩

/-- An entry of `handlers_` is the one of the listener or of an open connection. -/
theorem Consistent.registered (consistent : Consistent holds respond server) {fd : Fd}
    {entry : Handler} (found : server.handlers fd = some entry) :
    Listening server fd ∧ entry = listenHandler ∨
      ∃ connection events, Open server fd connection events ∧
        entry = connectionHandler connection.incarnation events := by
  cases consistent.slots fd with
  | vacant gone unused => simp [gone.handler] at found
  | listener listening =>
      exact Or.inl ⟨listening, Option.some.inj (found.symm.trans listening.handler)⟩
  | connection connection events opened tidy live numbered valid =>
      exact Or.inr ⟨connection, events, opened,
        Option.some.inj (found.symm.trans opened.handler)⟩

/-- An entry of `handlers_` was added for the descriptor that is open now. -/
theorem Consistent.owner (consistent : Consistent holds respond server) {fd : Fd} {entry : Handler}
    (found : server.handlers fd = some entry) : server.descriptors fd = some entry.owner := by
  obtain ⟨listening, rfl⟩ | ⟨connection, events, opened, rfl⟩ := consistent.registered found
  · exact listening.descriptor
  · exact opened.descriptor

/-- A descriptor that is not open has no entry anywhere. -/
theorem Consistent.gone (consistent : Consistent holds respond server) {fd : Fd}
    (closed : server.descriptors fd = none) :
    Gone server fd ∧ (fd = server.listenFd → fd = -1) := by
  cases consistent.slots fd with
  | vacant gone unused => exact ⟨gone, unused⟩
  | listener listening => simp [listening.descriptor] at closed
  | connection connection events opened tidy live numbered valid =>
      simp [opened.descriptor] at closed

/-- An open descriptor has an entry in `handlers_`. -/
theorem Consistent.handler_isSome (consistent : Consistent holds respond server) (fd : Fd) :
    (server.handlers fd).isSome ↔ server.descriptors fd ≠ none := by
  cases consistent.slots fd with
  | vacant gone unused => simp [gone.handler, gone.descriptor]
  | listener listening => simp [listening.handler, listening.descriptor]
  | connection connection events opened tidy live numbered valid =>
      simp [opened.handler, opened.descriptor]

/-- The keys of `handlers_` are those of `connections_` and the listening descriptor. -/
theorem Consistent.keys (consistent : Consistent holds respond server) (fd : Fd) :
    (server.handlers fd).isSome ↔
      (server.connections fd).isSome ∨ fd = server.listenFd ∧ server.listenFd ≠ -1 := by
  cases consistent.slots fd with
  | vacant gone unused =>
      simp only [gone.handler, gone.entry, Option.isSome_none, Bool.false_eq_true, false_or,
        false_iff, not_and, not_not]
      intro same
      exact same ▸ unused same
  | listener listening => simp [listening.handler, ← listening.is_listener, listening.valid]
  | connection connection events opened tidy live numbered valid =>
      simp [opened.handler, opened.entry]

end Consequences

/-! ## Framing -/

section Frame

variable {App : Type} {holds : App → Prop} {respond : Bytes → Bytes} {before after : Server App}
  {fd : Fd} {incarnation : Nat} {entries : Journal}

/-- A slot stays as it is while its tables, the listener and the journal of its socket do. -/
theorem Slot.transfer {other : Fd} (slot : Slot respond before other)
    (connection_eq : after.connections other = before.connections other)
    (handler_eq : after.handlers other = before.handlers other)
    (interest_eq : after.epoll other = before.epoll other)
    (descriptor_eq : after.descriptors other = before.descriptors other)
    (listener_eq : after.listenFd = before.listenFd)
    (accepted_le : before.accepted ≤ after.accepted)
    (journal_eq : ∀ connection, before.connections other = some connection →
      after.journal connection.incarnation = before.journal connection.incarnation) :
    Slot respond after other := by
  cases slot with
  | vacant gone unused =>
      exact .vacant
        ⟨connection_eq.trans gone.entry, handler_eq.trans gone.handler,
          interest_eq.trans gone.interest, descriptor_eq.trans gone.descriptor⟩
        (listener_eq ▸ unused)
  | listener listening =>
      exact .listener
        ⟨listener_eq ▸ listening.is_listener, listening.valid,
          connection_eq.trans listening.entry, handler_eq.trans listening.handler,
          interest_eq.trans listening.interest, descriptor_eq.trans listening.descriptor⟩
  | connection connection events opened tidy live numbered valid =>
      refine .connection connection events
        ⟨connection_eq.trans opened.entry, handler_eq.trans opened.handler,
          interest_eq.trans opened.interest, descriptor_eq.trans opened.descriptor,
          listener_eq ▸ opened.not_listener⟩ tidy ?_ (Nat.lt_of_lt_of_le numbered accepted_le)
        valid
      rw [journal_eq connection opened.entry]
      exact live

/-- A callback on one connection leaves every other slot as it is. -/
theorem Slot.frame {other : Fd} (slot : Slot respond before other)
    (effect : Effect fd incarnation entries before after) (ne : other ≠ fd)
    (apart : ∀ connection, before.connections other = some connection →
      connection.incarnation ≠ incarnation) :
    Slot respond after other :=
  slot.transfer (effect.connections other ne) (effect.handlers other ne) (effect.epoll other ne)
    (effect.descriptors other ne) effect.listenFd effect.accepted.ge
    fun connection entry => effect.journal _ (apart connection entry)

/-- A callback on one connection keeps the invariant when it leaves that connection in order. -/
theorem Consistent.of_effect (consistent : Consistent holds respond before)
    {connection : ConnectionState} (entry : before.connections fd = some connection)
    (effect : Effect fd connection.incarnation entries before after) (app : holds after.app)
    (slot : Slot respond after fd)
    (same : ∀ changed, after.connections fd = some changed →
      changed.incarnation = connection.incarnation)
    (sound : Sound respond (after.journal connection.incarnation)) :
    Consistent holds respond after where
  app := app
  slots other := by
    by_cases ne : other = fd
    · exact ne ▸ slot
    · refine (consistent.slots other).frame effect ne fun found found_entry clash => ne ?_
      exact consistent.distinct found_entry entry clash
  distinct := by
    have shared : ∀ other changed, after.connections other = some changed →
        ∃ found, before.connections other = some found ∧
          found.incarnation = changed.incarnation := by
      intro other changed changed_entry
      by_cases ne : other = fd
      · subst ne
        exact ⟨connection, entry, (same changed changed_entry).symm⟩
      · exact ⟨changed, (effect.connections other ne).symm.trans changed_entry, rfl⟩
    intro left right first second first_entry second_entry clash
    obtain ⟨old_first, old_first_entry, first_same⟩ := shared left first first_entry
    obtain ⟨old_second, old_second_entry, second_same⟩ := shared right second second_entry
    exact consistent.distinct old_first_entry old_second_entry
      (first_same.trans (clash.trans second_same.symm))
  fresh other above := by
    obtain ⟨-, -, -, -, numbered, -⟩ := consistent.opened entry
    rw [effect.accepted] at above
    rw [effect.journal other (by omega)]
    exact consistent.fresh other above
  sound other := by
    by_cases ne : other = connection.incarnation
    · exact ne ▸ sound
    · rw [effect.journal other ne]
      exact consistent.sound other

end Frame

/-! ## Callbacks on a connection -/

/-- A callback on `fd` keeps the invariant, leaves other open descriptors alone, and leaves `fd`
as it is or closed. -/
structure Moved {App : Type} (holds : App → Prop) (respond : Bytes → Bytes) (fd : Fd)
    (before after : Server App) : Prop where
  consistent : Consistent holds respond after
  others : ∀ other, other ≠ fd → before.descriptors other ≠ none →
    after.descriptors other = before.descriptors other
  own : after.descriptors fd = none ∨ after.descriptors fd = before.descriptors fd
  journals : ∀ incarnation, before.descriptors fd ≠ some (.connection incarnation) →
    after.journal incarnation = before.journal incarnation

section Connection

variable {App : Type} {holds : App → Prop} {respond : Bytes → Bytes} {before after : Server App}
  {fd : Fd} {connection changed : ConnectionState} {entries : Journal}

theorem Consistent.moved_refl (consistent : Consistent holds respond before) (fd : Fd) :
    Moved holds respond fd before before :=
  ⟨consistent, fun _ _ _ => rfl, Or.inr rfl, fun _ _ => rfl⟩

theorem Consistent.moved_of_gone (consistent : Consistent holds respond before)
    (entry : before.connections fd = some connection)
    (effect : Effect fd connection.incarnation entries before after) (app : holds after.app)
    (gone : Gone after fd) (sound : Sound respond (after.journal connection.incarnation)) :
    Moved holds respond fd before after := by
  obtain ⟨events, opened, -⟩ := consistent.opened entry
  have unused : fd = after.listenFd → fd = -1 := by
    intro clash
    exact absurd (effect.listenFd ▸ clash) opened.not_listener
  refine ⟨consistent.of_effect entry effect app (.vacant gone unused) ?_ sound,
    fun other ne _ => effect.descriptors other ne, Or.inl gone.descriptor,
    fun other apart => effect.journal other ?_⟩
  · intro changed changed_entry
    simp [gone.entry] at changed_entry
  · rintro rfl
    exact apart opened.descriptor

theorem Consistent.moved_of_open (consistent : Consistent holds respond before)
    (entry : before.connections fd = some connection)
    (effect : Effect fd connection.incarnation entries before after) (app : holds after.app)
    {events : Events} (opened : Open after fd changed events) (tidy : Tidy changed events)
    (same : changed.incarnation = connection.incarnation)
    (live : Live respond (after.journal connection.incarnation) changed) :
    Moved holds respond fd before after := by
  obtain ⟨interest, was_open, -, -, numbered, valid⟩ := consistent.opened entry
  have slot : Slot respond after fd :=
    .connection changed events opened tidy (same ▸ live)
      (by rw [same, effect.accepted]; exact numbered) valid
  refine ⟨consistent.of_effect entry effect app slot ?_ live.sound,
    fun other ne _ => effect.descriptors other ne, Or.inr ?_,
    fun other apart => effect.journal other ?_⟩
  · intro found found_entry
    obtain rfl := Option.some.inj (opened.entry.symm.trans found_entry)
    exact same
  · rw [opened.descriptor, was_open.descriptor, same]
  · rintro rfl
    exact apart was_open.descriptor

/-- `HandleWritable` keeps the invariant. -/
theorem moved_handleWritable (consistent : Consistent holds respond before) (fd : Fd)
    (sends : List SendResult) :
    Moved holds respond fd before (handleWritable before fd sends).1 := by
  cases entry : before.connections fd with
  | none =>
      simp only [handleWritable, entry]
      exact consistent.moved_refl fd
  | some connection =>
      obtain ⟨events, opened, tidy, live, -⟩ := consistent.opened entry
      obtain ⟨-, wrote⟩ := handleWritable_spec opened tidy.within sends
      have app : holds (handleWritable before fd sends).1.app := wrote.app ▸ consistent.app
      have balanced := balanced_flush live.balanced sends
      rw [← wrote.effect.extends_journal] at balanced
      have received_eq : ((handleWritable before fd sends).1.journal
          connection.incarnation).received = (before.journal connection.incarnation).received := by
        simp [wrote.effect.extends_journal]
      have delivered_eq : ((handleWritable before fd sends).1.journal
          connection.incarnation).delivered =
            (before.journal connection.incarnation).delivered := by
        simp [wrote.effect.extends_journal]
      have handed_eq : ((handleWritable before fd sends).1.journal connection.incarnation).handed =
          (before.journal connection.incarnation).received := by
        rw [wrote.effect.extends_journal, Journal.handed_append_of_notMem (by simp), live.handed]
      by_cases failed : (flush connection.pending sends).ending = .failed
      · apply consistent.moved_of_gone entry wrote.effect app (wrote.gone failed)
        refine ⟨?_, ⟨_, balanced⟩⟩
        rw [delivered_eq, handed_eq]
        exact live.delivered
      · obtain ⟨changed, interest, stays, changed_tidy, pending_eq, buffer_eq, same⟩ :=
          wrote.stays failed
        apply consistent.moved_of_open entry wrote.effect app stays changed_tidy same
        refine ⟨handed_eq.trans received_eq.symm, ?_, ?_, ?_, pending_eq ▸ balanced⟩
        · rw [delivered_eq, received_eq]
          exact live.delivered
        · rw [buffer_eq, received_eq]
          exact live.residue
        · rw [received_eq]
          exact live.stays_open

/-- `HandleWritable` without a failing `send` leaves the connection open and reads nothing. -/
theorem handleWritable_of_noFailure (consistent : Consistent holds respond before)
    (entry : before.connections fd = some connection) {sends : List SendResult}
    (fine : NoFailure sends) :
    (handleWritable before fd sends).1.descriptors fd = before.descriptors fd ∧
      ((handleWritable before fd sends).1.journal connection.incarnation).received =
        (before.journal connection.incarnation).received := by
  obtain ⟨events, opened, tidy, -⟩ := consistent.opened entry
  obtain ⟨-, wrote⟩ := handleWritable_spec opened tidy.within sends
  obtain ⟨changed, interest, stays, -, -, -, same⟩ :=
    wrote.stays (flush_of_noFailure connection.pending fine).1
  exact ⟨by rw [stays.descriptor, opened.descriptor, same], by simp [wrote.effect.extends_journal]⟩

/-- `Close` on a connection keeps the invariant. -/
theorem moved_close (consistent : Consistent holds respond before)
    (entry : before.connections fd = some connection) :
    Moved holds respond fd before (close before fd) := by
  obtain ⟨events, opened, tidy, live, -⟩ := consistent.opened entry
  have effect := opened.effect_close connection.incarnation
  refine consistent.moved_of_gone entry effect (opened.app_close ▸ consistent.app)
    opened.gone_close ?_
  rw [effect.extends_journal, List.append_nil]
  exact live.sound

/-- Reading up to the end of the stream or a fatal error keeps the invariant. -/
theorem moved_handleReadable_closed (consistent : Consistent holds respond before)
    (entry : before.connections fd = some connection) (handler : FrameHandler App)
    {recvs : List RecvResult} (ends : EndsStream recvs) (sends : List SendResult) :
    ∃ after, handleReadable handler before fd recvs sends = .ok (after, sends) ∧
      Moved holds respond fd before after := by
  obtain ⟨events, opened, tidy, live, -⟩ := consistent.opened entry
  obtain ⟨after, ok, app_eq, gone, effect⟩ := handleReadable_closed handler opened ends sends
  refine ⟨after, ok, consistent.moved_of_gone entry effect (app_eq ▸ consistent.app) gone ?_⟩
  rw [effect.extends_journal]
  refine ⟨?_, ⟨_, live.balanced.receive _⟩⟩
  rw [Journal.handed_append_of_notMem (by simp), live.handed]
  simpa using live.delivered

/-- `HandleReadable` reads the end of the stream or a fatal error, or buffers a refused length. -/
def ReadCloses (connection : ConnectionState) (recvs : List RecvResult) : Prop :=
  EndsStream recvs ∨
    (frameCutter.split (connection.receive (arrived recvs)).inputBuffer).rejected = true

/-- `HandleReadable` gets to cutting frames and a write of one of their answers fails. -/
def ReadFaults (respond : Bytes → Bytes) (connection : ConnectionState) (recvs : List RecvResult)
    (sends : List SendResult) : Prop :=
  ¬ EndsStream recvs ∧
    repliesFail connection.pending
      ((frameCutter.split (connection.receive (arrived recvs)).inputBuffer).items.map respond)
      sends = true

/-- The journal of an open connection after more bytes were read and cut. -/
theorem Live.processed {respond : Bytes → Bytes} {holds : App → Prop} {middle after : Server App}
    {chunks : List Bytes} {bytes : Bytes} {entries : Journal} (flat : chunks.flatten = bytes)
    (live : Live respond (before.journal connection.incarnation) connection)
    (effect : Effect fd connection.incarnation (chunks.map .received ++ [.blocked]) before middle)
    (processed : Processed holds respond fd (connection.receive bytes) entries middle after) :
    let journal := after.journal connection.incarnation
    let cut := frameCutter.split (connection.receive bytes).inputBuffer
    journal.handed = journal.received ∧
      journal.delivered = (frameCutter.split journal.received).items ∧
      (frameCutter.split journal.received).residue = cut.residue ∧
      (frameCutter.split journal.received).rejected = cut.rejected := by
  intro journal cut
  subst flat
  have journal_eq : journal = before.journal connection.incarnation ++
      (chunks.map .received ++ [.blocked]) ++ entries := by
    rw [← effect.extends_journal]
    exact processed.effect.extends_journal
  have handed_eq : journal.handed = journal.received := by
    rw [journal_eq, Journal.handed_append_of_notMem processed.quiet, ← List.append_assoc,
      Journal.handed_concat_blocked]
    simp [processed.received]
  have received_eq : journal.received =
      (before.journal connection.incarnation).received ++ chunks.flatten := by
    simp [journal_eq, processed.received]
  have delivered_eq : journal.delivered =
      (before.journal connection.incarnation).delivered ++ cut.items := by
    simp [journal_eq, processed.delivered, cut]
  have cut_eq : cut = frameCutter.split
      ((frameCutter.split (before.journal connection.incarnation).received).residue ++
        chunks.flatten) := by
    simp only [cut, ConnectionState.inputBuffer_receive, live.residue]
  refine ⟨handed_eq, ?_⟩
  rw [delivered_eq, received_eq, frameCutter.split_append_of_open _ _ live.stays_open, ← cut_eq]
  exact ⟨by rw [live.delivered], rfl, rfl⟩

/-- `HandleReadable` keeps the invariant unless a write of an answer fails; it closes the connection
exactly at the end of the stream, on a fatal error and on a refused length. -/
theorem moved_handleReadable {handler : FrameHandler App} (answers : Answers handler holds respond)
    (consistent : Consistent holds respond before)
    (entry : before.connections fd = some connection) (recvs : List RecvResult)
    (sends : List SendResult) :
    (ReadFaults respond connection recvs sends →
        handleReadable handler before fd recvs sends = .error (.inputBuffer fd)) ∧
      (¬ ReadFaults respond connection recvs sends →
        ∃ after rest, handleReadable handler before fd recvs sends = .ok (after, rest) ∧
          Moved holds respond fd before after ∧
          (after.descriptors fd = none ↔ ReadCloses connection recvs)) := by
  obtain ⟨events, opened, tidy, live, -⟩ := consistent.opened entry
  by_cases ends : EndsStream recvs
  · refine ⟨fun faults => absurd ends faults.1, fun _ => ?_⟩
    obtain ⟨after, ok, moved⟩ := moved_handleReadable_closed consistent entry handler ends sends
    obtain ⟨same, same_ok, -, gone, -⟩ := handleReadable_closed handler opened ends sends
    obtain rfl : after = same := by simpa [ok] using same_ok
    exact ⟨after, sends, ok, moved, by simp [ReadCloses, ends, gone.descriptor]⟩
  · obtain ⟨fails, fine⟩ := handleReadable_spec answers fd opened tidy consistent.app
      live.balanced ends sends
    refine ⟨fun faults => fails faults.2, fun no_fault => ?_⟩
    obtain ⟨middle, after, rest, entries, ok, effect, processed⟩ :=
      fine (by simpa [ReadFaults, ends] using no_fault)
    obtain ⟨handed_eq, delivered_eq, residue_eq, rejected_eq⟩ :=
      live.processed (flatten_recvLoop ends) effect processed
    refine ⟨after, rest, ok, ?_⟩
    have whole := effect.trans processed.effect
    cases rejected : (frameCutter.split (connection.receive (arrived recvs)).inputBuffer).rejected
      with
    | true =>
        have gone := processed.gone rejected
        refine ⟨consistent.moved_of_gone entry whole processed.app gone ?_, ?_⟩
        · exact ⟨handed_eq ▸ delivered_eq, processed.balanced⟩
        · simp only [ReadCloses, rejected, or_true, gone.descriptor]
    | false =>
        obtain ⟨changed, interest, stays, changed_tidy, buffer_eq, same, balanced⟩ :=
          processed.stays rejected
        refine ⟨consistent.moved_of_open entry whole processed.app stays changed_tidy same ?_, ?_⟩
        · exact ⟨handed_eq, delivered_eq, buffer_eq.trans residue_eq.symm,
            rejected_eq.trans rejected, balanced⟩
        · simpa [ReadCloses, ends, stays.descriptor] using rejected

/-- `HandleReadable` that meets no end of the stream reads up to `EAGAIN`. -/
theorem received_handleReadable {handler : FrameHandler App}
    (answers : Answers handler holds respond) (consistent : Consistent holds respond before)
    (entry : before.connections fd = some connection) {recvs : List RecvResult}
    {sends rest : List SendResult} (goes_on : ¬ EndsStream recvs)
    (returned : handleReadable handler before fd recvs sends = .ok (after, rest)) :
    (after.journal connection.incarnation).received =
      (before.journal connection.incarnation).received ++ arrived recvs := by
  obtain ⟨events, opened, tidy, live, -⟩ := consistent.opened entry
  obtain ⟨fails, fine⟩ := handleReadable_spec answers fd opened tidy consistent.app live.balanced
    goes_on sends
  have no_failure : repliesFail connection.pending ((frameCutter.split
      (connection.receive (arrived recvs)).inputBuffer).items.map respond) sends = false := by
    refine Bool.eq_false_iff.mpr fun failing => ?_
    rw [fails failing] at returned
    cases returned
  obtain ⟨middle, same, left, entries, ok, effect, processed⟩ := fine no_failure
  obtain ⟨rfl, rfl⟩ : same = after ∧ left = rest := by simpa [ok] using returned
  have journal_eq : same.journal connection.incarnation = _ :=
    (effect.trans processed.effect).extends_journal
  simp [journal_eq, processed.received, flatten_recvLoop goes_on]

end Connection

/-! ## Callbacks on the listener -/

section Listener

variable {App : Type} {holds : App → Prop} {respond : Bytes → Bytes} {before : Server App}

/-- `Close` on the listener keeps the invariant. -/
theorem moved_close_listener (consistent : Consistent holds respond before) {fd : Fd}
    (listening : Listening before fd) : Moved holds respond fd before (close before fd) := by
  have close_eq : close before fd =
      { (Reactor.remove before fd).closeDescriptor fd with listenFd := -1 } := by
    rw [close, if_pos listening.is_listener]
  rw [close_eq]
  refine ⟨⟨consistent.app, ?_, consistent.distinct, consistent.fresh, consistent.sound⟩, ?_, ?_,
    fun _ _ => rfl⟩
  · intro other
    by_cases same : other = fd
    · subst same
      refine .vacant ⟨listening.entry, ?_, ?_, ?_⟩ fun same => same <;>
        simp [Reactor.remove, Server.closeDescriptor]
    · cases consistent.slots other with
      | vacant gone unused =>
          refine .vacant ⟨gone.entry, ?_, ?_, ?_⟩ fun same => same <;>
            simp [Reactor.remove, Server.closeDescriptor, same, gone.handler, gone.interest,
              gone.descriptor]
      | listener also => exact absurd (also.is_listener.trans listening.is_listener.symm) same
      | connection connection events opened tidy live numbered valid =>
          refine .connection connection events ⟨opened.entry, ?_, ?_, ?_, ?_⟩ tidy live numbered
            valid
          · simp [Reactor.remove, Server.closeDescriptor, same, opened.handler]
          · simp [Reactor.remove, Server.closeDescriptor, same, opened.interest]
          · simp [Reactor.remove, Server.closeDescriptor, same, opened.descriptor]
          · intro (clash : other = -1)
            exact absurd (clash ▸ valid : (0 : Int) ≤ -1) (by decide)
  · intro other ne _
    simp [Server.closeDescriptor, Reactor.remove, ne]
  · simp [Server.closeDescriptor]

/-- The server behind `accept` of a new socket. -/
def accepting (server : Server App) (fd : Fd) : Server App :=
  { server with
    descriptors := Function.update server.descriptors fd (some (.connection server.accepted))
    accepted := server.accepted + 1 }

/-- The new socket becomes a connection. -/
def admitting (server : Server App) (fd : Fd) : Server App :=
  Reactor.add ((accepting server fd).setConnection fd { incarnation := server.accepted }) fd
    (connectionHandler server.accepted { epollin := true })

/-- One accepted socket whose `SetNonBlocking` failed. -/
theorem Consistent.skipped (consistent : Consistent holds respond before) {fd : Fd}
    (free : before.descriptors fd = none) :
    Consistent holds respond ((accepting before fd).closeDescriptor fd) := by
  obtain ⟨gone, -⟩ := consistent.gone free
  have same_epoll : Function.update before.epoll fd none = before.epoll := by
    rw [← gone.interest, Function.update_eq_self]
  have same_descriptors : Function.update before.descriptors fd none = before.descriptors := by
    rw [← gone.descriptor, Function.update_eq_self]
  simp only [accepting, Server.closeDescriptor, Function.update_idem, same_epoll,
    same_descriptors]
  refine ⟨consistent.app, ?_, consistent.distinct,
    fun other above => consistent.fresh other (by simp only at above; omega), consistent.sound⟩
  intro other
  exact (consistent.slots other).transfer rfl rfl rfl rfl rfl (Nat.le_succ _) fun _ _ => rfl

/-- One accepted socket that becomes a connection. -/
theorem Consistent.admitted (consistent : Consistent holds respond before) {fd : Fd}
    (valid : 0 ≤ fd) (free : before.descriptors fd = none) :
    Consistent holds respond (admitting before fd) := by
  obtain ⟨gone, unused⟩ := consistent.gone free
  have not_listener : fd ≠ before.listenFd := by
    intro clash
    exact absurd (unused clash ▸ valid : (0 : Int) ≤ -1) (by decide)
  have unnumbered : ∀ other connection, before.connections other = some connection →
      connection.incarnation ≠ before.accepted := by
    intro other connection entry
    obtain ⟨-, -, -, -, numbered, -⟩ := consistent.opened entry
    omega
  refine ⟨consistent.app, ?_, ?_, ?_, consistent.sound⟩
  · intro other
    by_cases same : other = fd
    · subst same
      refine .connection { incarnation := before.accepted } readInterest ?_ ?_ ?_
        (Nat.lt_succ_self _) valid
      · constructor <;> simp [admitting, accepting, Server.setConnection, Reactor.add,
          connectionHandler, not_listener]
      · exact ⟨le_rfl, Or.inl ⟨rfl, rfl, rfl⟩⟩
      · simp only [admitting, accepting, Server.setConnection, Reactor.add,
          consistent.fresh _ le_rfl]
        exact live_nil respond _
    · refine (consistent.slots other).transfer ?_ ?_ ?_ ?_ rfl (Nat.le_succ _) fun _ _ => rfl
      all_goals simp [admitting, accepting, Server.setConnection, Reactor.add, same]
  · intro left right first second first_entry second_entry clash
    simp only [admitting, accepting, Server.setConnection, Reactor.add,
      Function.update_apply] at first_entry second_entry
    split at first_entry <;> split at second_entry
    · simp_all
    · obtain rfl := Option.some.inj first_entry
      exact absurd clash.symm (unnumbered right second second_entry)
    · obtain rfl := Option.some.inj second_entry
      exact absurd clash (unnumbered left first first_entry)
    · exact consistent.distinct first_entry second_entry clash
  · intro other above
    exact consistent.fresh other (Nat.le_of_succ_le above)

/-- What holds before `AcceptLoop` and survives both outcomes for a new socket holds behind it. -/
theorem acceptLoop_induction (motive : Server App → Prop)
    (consistent : Consistent holds respond before) (accepts : List AcceptResult)
    (initial : motive before)
    (skipped : ∀ server fd, server.descriptors fd = none → motive server →
      motive ((accepting server fd).closeDescriptor fd))
    (admitted : ∀ server fd, server.descriptors fd = none → motive server →
      motive (admitting server fd)) :
    Consistent holds respond (acceptLoop before accepts) ∧ motive (acceptLoop before accepts) := by
  fun_induction acceptLoop before accepts with
  | case1 server => exact ⟨consistent, initial⟩
  | case2 server rest => exact ⟨consistent, initial⟩
  | case3 server errno rest => exact ⟨consistent, initial⟩
  | case4 server rest ih => exact ih consistent initial
  | case5 server fd nonBlocking rest refused => exact ⟨consistent, initial⟩
  | case6 server fd nonBlocking rest taken incarnation opened blocking ih =>
      obtain ⟨valid, free⟩ : 0 ≤ fd ∧ server.descriptors fd = none := by
        simpa [not_or] using taken
      exact ih (consistent.skipped free) (skipped server fd free initial)
  | case7 server fd nonBlocking rest taken incarnation opened blocking entry added ih =>
      obtain ⟨valid, free⟩ : 0 ≤ fd ∧ server.descriptors fd = none := by
        simpa [not_or] using taken
      obtain ⟨gone, -⟩ := consistent.gone free
      -- `emplace` finds no stale entry: the number of the new socket was in no table.
      have entry_eq : entry = { incarnation := server.accepted } := by
        simp [entry, opened, gone.entry, incarnation]
      have added_eq : Reactor.add added fd (connectionHandler incarnation { epollin := true }) =
          admitting server fd := by
        simp only [added, entry_eq]
        rfl
      rw [added_eq] at ih ⊢
      exact ih (consistent.admitted valid free) (admitted server fd free initial)

/-- `AcceptLoop` keeps the invariant and every open descriptor. -/
theorem acceptLoop_spec (consistent : Consistent holds respond before)
    (accepts : List AcceptResult) :
    Consistent holds respond (acceptLoop before accepts) ∧
      ∀ fd, before.descriptors fd ≠ none →
        (acceptLoop before accepts).descriptors fd = before.descriptors fd := by
  refine acceptLoop_induction (fun server => ∀ fd, before.descriptors fd ≠ none →
    server.descriptors fd = before.descriptors fd) consistent accepts (fun _ _ => rfl) ?_ ?_
  · intro server fd free kept other other_open
    have ne : other ≠ fd := fun same => other_open (kept other other_open ▸ same ▸ free)
    simpa [accepting, Server.closeDescriptor, ne] using kept other other_open
  · intro server fd free kept other other_open
    have ne : other ≠ fd := fun same => other_open (kept other other_open ▸ same ▸ free)
    simpa [admitting, accepting, Reactor.add, Server.setConnection, ne] using
      kept other other_open

/-- `AcceptLoop` writes no journal. -/
theorem journal_acceptLoop (consistent : Consistent holds respond before)
    (accepts : List AcceptResult) : (acceptLoop before accepts).journal = before.journal :=
  (acceptLoop_induction (fun server => server.journal = before.journal) consistent accepts rfl
    (fun _ _ _ kept => kept) fun _ _ _ kept => kept).2

/-- The sockets numbered from `start` on are connections with empty buffers. -/
def StartsEmpty (server : Server App) (start : Nat) : Prop :=
  ∀ fd incarnation, server.descriptors fd = some (.connection incarnation) →
    start ≤ incarnation → server.connections fd = some { incarnation := incarnation }

/-- `AcceptLoop` gives every socket that it accepts empty buffers. -/
theorem startsEmpty_acceptLoop (consistent : Consistent holds respond before)
    (accepts : List AcceptResult) {start : Nat} (empty : StartsEmpty before start) :
    StartsEmpty (acceptLoop before accepts) start := by
  refine (acceptLoop_induction (StartsEmpty · start) consistent accepts empty ?_ ?_).2
  · intro server fd free empty other number descriptor above
    by_cases same : other = fd
    · subst same
      simp [Server.closeDescriptor] at descriptor
    · exact empty other number
        (by simpa [accepting, Server.closeDescriptor, same] using descriptor) above
  · intro server fd free empty other number descriptor above
    by_cases same : other = fd
    · subst same
      obtain rfl : server.accepted = number := by
        simpa [admitting, accepting, Reactor.add, Server.setConnection] using descriptor
      simp [admitting, accepting, Reactor.add, Server.setConnection]
    · have kept := empty other number (by
        simpa [admitting, accepting, Reactor.add, Server.setConnection, same] using descriptor)
        above
      simpa [admitting, accepting, Reactor.add, Server.setConnection, same] using kept

/-- Before `AcceptLoop` runs no socket has a number from `accepted` on. -/
theorem Consistent.startsEmpty (consistent : Consistent holds respond before) :
    StartsEmpty before before.accepted := by
  intro fd incarnation descriptor above
  cases consistent.slots fd with
  | vacant gone unused => simp [gone.descriptor] at descriptor
  | listener listening => simp [listening.descriptor] at descriptor
  | connection connection events opened tidy live numbered valid =>
      have same : connection.incarnation = incarnation := by
        simpa [opened.descriptor] using descriptor
      omega

end Listener

end Hxrpc
