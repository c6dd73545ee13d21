import Hxrpc.Server.Invariant

/-!
# The invariant along every run

Each move of the event loop keeps the invariant of the tables, and the events that are still to be
handled belong to the descriptors they were reported for.
-/

namespace Hxrpc

open ConnectionManager Reactor

/-- The invariant of the event loop. -/
structure Invariant {App : Type} (holds : App → Prop) (respond : Bytes → Bytes)
    (loop : Loop App) : Prop where
  server : Consistent holds respond loop.server
  nodup : (loop.batch.map Event.fd).Nodup
  reported : ∀ event ∈ loop.batch, loop.server.descriptors event.fd = some event.owner
  current : ∀ event denoted, loop.current = some (event, denoted) →
    event.fd ∉ loop.batch.map Event.fd ∧ denoted.owner = event.owner ∧
      (loop.server.descriptors event.fd = none ∨
        loop.server.descriptors event.fd = some event.owner)

section Moves

variable {App : Type} {holds : App → Prop} {respond : Bytes → Bytes} {handler : FrameHandler App}
  {server after : Server App} {fd : Fd} {entry : Handler} {script : Script}

/-- `on_error` keeps the invariant. -/
theorem moved_onError (consistent : Consistent holds respond server)
    (found : server.handlers fd = some entry)
    (returned : invokeIfSet handler server fd script entry.onError = .ok after) :
    Moved holds respond fd server after := by
  obtain ⟨listening, rfl⟩ | ⟨connection, events, opened, rfl⟩ := consistent.registered found
  · obtain rfl := Except.ok.inj returned
    exact moved_close_listener consistent listening
  · obtain rfl := Except.ok.inj returned
    exact moved_close consistent opened.entry

/-- `on_writable` keeps the invariant. -/
theorem moved_onWritable (consistent : Consistent holds respond server)
    (found : server.handlers fd = some entry)
    (returned : invokeIfSet handler server fd script entry.onWritable = .ok after) :
    Moved holds respond fd server after := by
  obtain ⟨listening, rfl⟩ | ⟨connection, events, opened, rfl⟩ := consistent.registered found
  · obtain rfl := Except.ok.inj returned
    exact consistent.moved_refl fd
  · obtain rfl := Except.ok.inj returned
    exact moved_handleWritable consistent fd script.sends

/-- `on_readable` of a connection is `HandleReadable`. -/
theorem onReadable_connection {connection : ConnectionState} {events : Events}
    (opened : Open server fd connection events) (found : server.handlers fd = some entry) :
    invokeIfSet handler server fd script entry.onReadable =
      (handleReadable handler server fd script.recvs script.sends).map Prod.fst := by
  obtain rfl := Option.some.inj (opened.handler.symm.trans found)
  rfl

/-- `on_readable` of a connection that returns: reading did not fault, and what it did. -/
theorem moved_onReadable_connection (answers : Answers handler holds respond)
    (consistent : Consistent holds respond server) {connection : ConnectionState} {events : Events}
    (opened : Open server fd connection events) (found : server.handlers fd = some entry)
    (returned : invokeIfSet handler server fd script entry.onReadable = .ok after) :
    Moved holds respond fd server after ∧
      (after.descriptors fd = none ↔ ReadCloses connection script.recvs) := by
  rw [onReadable_connection opened found] at returned
  obtain ⟨faults, fine⟩ := moved_handleReadable answers consistent opened.entry script.recvs
    script.sends
  by_cases fault : ReadFaults respond connection script.recvs script.sends
  · rw [faults fault] at returned
    cases returned
  · obtain ⟨result, rest, ok, moved, closed_iff⟩ := fine fault
    rw [ok] at returned
    obtain rfl := Except.ok.inj returned
    exact ⟨moved, closed_iff⟩

/-- `on_readable` keeps the invariant. -/
theorem moved_onReadable (answers : Answers handler holds respond)
    (consistent : Consistent holds respond server) (found : server.handlers fd = some entry)
    (returned : invokeIfSet handler server fd script entry.onReadable = .ok after) :
    Moved holds respond fd server after := by
  obtain ⟨listening, rfl⟩ | ⟨connection, events, opened, -⟩ := consistent.registered found
  · obtain rfl := Except.ok.inj returned
    obtain ⟨kept, untouched⟩ := acceptLoop_spec consistent script.accepts
    refine ⟨kept, fun other _ other_open => untouched other other_open, Or.inr ?_, ?_⟩
    · exact untouched fd (by simp [listening.descriptor])
    · exact fun incarnation _ =>
        congrFun (journal_acceptLoop consistent script.accepts) incarnation
  · exact (moved_onReadable_connection answers consistent opened found returned).1

theorem Invariant.first {event : Event} {batch : List Event}
    (invariant : Invariant holds respond { server := server, batch := event :: batch }) :
    server.descriptors event.fd = some event.owner :=
  invariant.reported event List.mem_cons_self

theorem Invariant.later {event : Event} {batch : List Event}
    (invariant : Invariant holds respond { server := server, batch := event :: batch }) :
    ∀ other ∈ batch, server.descriptors other.fd = some other.owner :=
  fun other member => invariant.reported other (List.mem_cons_of_mem event member)

/-- After a callback for the first event of the batch the rest of the batch is still right. -/
theorem Moved.invariant {event : Event} {batch : List Event} {current : Option (Event × Handler)}
    (moved : Moved holds respond event.fd server after)
    (nodup : ((event :: batch).map Event.fd).Nodup)
    (reported : ∀ other ∈ batch, server.descriptors other.fd = some other.owner)
    (own : server.descriptors event.fd = none ∨ server.descriptors event.fd = some event.owner)
    (denotes : ∀ other denoted, current = some (other, denoted) →
      other = event ∧ denoted.owner = event.owner) :
    Invariant holds respond { server := after, batch := batch, current := current } := by
  simp only [List.map_cons, List.nodup_cons] at nodup
  refine ⟨moved.consistent, nodup.2, ?_, ?_⟩
  · intro other member
    have other_open := reported other member
    rw [moved.others other.fd ?_ (by simp [other_open]), other_open]
    intro clash
    exact nodup.1 (List.mem_map.mpr ⟨other, member, clash⟩)
  · intro other denoted is_current
    obtain ⟨rfl, same_owner⟩ := denotes other denoted is_current
    refine ⟨nodup.1, same_owner, ?_⟩
    rcases moved.own with closed | kept
    · exact Or.inl closed
    · simp only [kept]
      exact own

/-- Each move of the loop keeps the invariant. -/
theorem invariant_turn (answers : Answers handler holds respond) {loop next : Loop App}
    (invariant : Invariant holds respond loop) (returned : turn handler script loop = .ok next) :
    Invariant holds respond next := by
  have consistent := invariant.server
  cases turned_of_turn returned with
  | rest server => exact invariant
  | @skip server event batch gone =>
      exact (consistent.moved_refl event.fd).invariant invariant.nodup invariant.later
        (Or.inr invariant.first) (by simp)
  | error found failing called =>
      exact (moved_onError consistent found called).invariant invariant.nodup invariant.later
        (Or.inr invariant.first) (by simp)
  | @read server after event batch entry found quiet called =>
      have moved : Moved holds respond event.fd server after := by
        rcases called with ⟨-, called⟩ | ⟨-, rfl⟩
        · exact moved_onReadable answers consistent found called
        · exact consistent.moved_refl event.fd
      apply moved.invariant invariant.nodup invariant.later (Or.inr invariant.first)
      rintro other denoted ⟨rfl, rfl⟩
      exact ⟨rfl, Option.some.inj ((consistent.owner found).symm.trans invariant.first)⟩
  | @write server after event batch entry denoted writable found same called =>
      obtain ⟨apart, -, own⟩ := invariant.current event denoted rfl
      exact (moved_onWritable consistent found called).invariant
        (List.nodup_cons.mpr ⟨apart, invariant.nodup⟩) invariant.reported own (by simp)
  | @pass server event denoted batch unwritable =>
      obtain ⟨apart, -, own⟩ := invariant.current event denoted rfl
      exact (consistent.moved_refl event.fd).invariant
        (List.nodup_cons.mpr ⟨apart, invariant.nodup⟩) invariant.reported own (by simp)

end Moves

section Runs

variable {App : Type} {holds : App → Prop} {respond : Bytes → Bytes} {handler : FrameHandler App}
  {allowed : Loop App → Script → Prop}

/-- One step of a run keeps the invariant. -/
theorem invariant_step (answers : Answers handler holds respond) {loop next : Loop App}
    (invariant : Invariant holds respond loop) (step : Step handler allowed loop next) :
    Invariant holds respond next := by
  cases step with
  | wait server reported =>
      exact ⟨invariant.server, reported.nodup, reported.owner, by simp⟩
  | turn script permitted moved => exact invariant_turn answers invariant moved

/-- `Listen` establishes the invariant. -/
theorem invariant_listen {app : App} (initial : holds app) {outcome : ListenOutcome}
    {server : Server App}
    (listened : ConnectionManager.listen { app := app } outcome = (true, server)) :
    Invariant holds respond { server := server } := by
  simp only [ConnectionManager.listen] at listened
  split at listened
  · cases listened
  split at listened
  · rename_i nonnegative _
    obtain rfl := (Prod.mk.inj listened).2
    refine ⟨⟨initial, ?_, by simp [Reactor.add], fun _ _ => rfl, fun _ => sound_nil respond⟩,
      by simp, by simp, by simp⟩
    intro fd
    by_cases same : fd = outcome.socketFd
    · subst same
      refine .listener ⟨rfl, ?_, rfl, ?_, ?_, ?_⟩
      · intro clash
        exact nonnegative (clash ▸ (by decide : (-1 : Int) < 0))
      all_goals simp [Reactor.add]
    · refine .vacant ⟨rfl, ?_, ?_, ?_⟩ fun clash => absurd clash same
      all_goals simp [Reactor.add, same]
  · cases listened

/-- Every state of a run satisfies the invariant. -/
theorem invariant_of_runs (answers : Answers handler holds respond) {app : App}
    (initial : holds app) {loop : Loop App} (run : Runs handler allowed app loop) :
    Invariant holds respond loop := by
  obtain ⟨outcome, server, listened, steps⟩ := run
  induction steps with
  | refl => exact invariant_listen initial listened
  | tail _ step ih => exact invariant_step answers ih step

end Runs

end Hxrpc
