import Hxrpc.Logger

/-!
# What the logger writes

Every accepted entry is written by the worker, waits in the rest of its batch or waits in the queue,
in the order of acceptance.  The worker returns only when it was told to stop and nothing is left.
The destructor waits for the worker, but not for the other threads: an entry that is accepted behind
the return of the worker is never written.
-/

namespace Hxrpc

namespace Logger

variable {putTime : Int → Bytes} {impl next : Impl} {action : Action}

/-- Nothing happens to the entries or to the worker. -/
structure Keeps (impl next : Impl) : Prop where
  accepted : next.accepted = impl.accepted
  written : next.written = impl.written
  batch : next.batch = impl.batch
  queue : next.queue = impl.queue
  worker : next.worker = impl.worker
  stopping : impl.stopping = true → next.stopping = true
  destroyed : next.destroyed = true → impl.destroyed = true ∨ impl.worker = .ended

/-- What a step can do to the entries and to the worker. -/
inductive Effect (impl : Impl) (action : Action) (next : Impl) : Prop where
  /-- Nothing. -/
  | keep (keeps : Keeps impl next) (in_time : ¬ Late impl action)
  /-- An entry is accepted. -/
  | accept (entry : LogEntry)
      (next_eq : next =
        { impl with queue := impl.queue ++ [entry], accepted := impl.accepted ++ [entry] })
      (late_iff : Late impl action ↔ impl.worker = .ended)
  /-- The worker writes the next entry of its batch. -/
  | handle (count : Nat) (entry : LogEntry) (at_count : impl.worker = .writing count)
      (here : impl.batch[count]? = some entry) (accepted : next.accepted = impl.accepted)
      (written : next.written = impl.written ++ [entry]) (batch : next.batch = impl.batch)
      (queue : next.queue = impl.queue) (worker : next.worker = .writing (count + 1))
      (destroyed : next.destroyed = impl.destroyed) (in_time : ¬ Late impl action)
  /-- The worker comes to the head of its loop, behind its batch or out of the wait. -/
  | turn (batch : List LogEntry)
      (through : batch = [] ∧ impl.worker = .writing impl.batch.length ∨
        batch = impl.batch ∧ (impl.worker = .starting ∨ impl.worker = .waiting))
      (next_eq : next = loopHead { impl with batch := batch })
      (in_time : ¬ Late impl action)

/-- Behind the wait the worker does what it does at the head of its loop. -/
theorem woken_eq (impl : Impl) : woken impl = loopHead impl := by
  rw [woken]
  split_ifs with empty
  · rfl
  · simp only [loopHead, empty, and_false, if_false]

theorem effect_write (level : LogLevel) (now : Int) (message : Bytes) :
    Effect impl (.write level now message) (write putTime impl level now message) := by
  rw [write]
  split_ifs with low async
  · refine .keep ⟨rfl, rfl, rfl, rfl, rfl, id, Or.inl⟩ ?_
    rintro ⟨-, -, high⟩
    omega
  · refine .accept _ rfl ?_
    simp only [Late, async, Nat.not_lt.mp low, and_true]
  · refine .keep ⟨rfl, rfl, rfl, rfl, rfl, id, Or.inl⟩ ?_
    rintro ⟨-, asynchronous, -⟩
    exact async asynchronous

theorem effect_configure (options : LoggerOptions) (answer : FileAnswer) :
    Effect impl (.configure options answer) (configure impl options answer).2 := by
  have keeps : Keeps impl (configure impl options answer).2 := by
    by_cases file : options.filePath = []
    · rw [configure, if_neg (not_not.mpr file)]
      exact ⟨rfl, rfl, rfl, rfl, rfl, id, Or.inl⟩
    rw [configure, if_pos file]
    cases answer.directoryError with
    | some message => exact ⟨rfl, rfl, rfl, rfl, rfl, id, Or.inl⟩
    | none =>
        cases opened : answer.opened with
        | true => exact ⟨rfl, rfl, rfl, rfl, rfl, id, Or.inl⟩
        | false => exact ⟨rfl, rfl, rfl, rfl, rfl, id, Or.inl⟩
  exact .keep keeps id

/-- Every step has one of the effects. -/
theorem effect_of_step (moved : step putTime impl action = some next) :
    Effect impl action next := by
  cases action with
  | write level now message =>
      simp only [step] at moved
      split_ifs at moved
      obtain rfl := Option.some.inj moved
      exact effect_write level now message
  | configure options answer =>
      simp only [step] at moved
      split_ifs at moved
      obtain rfl := Option.some.inj moved
      exact effect_configure options answer
  | start =>
      simp only [step] at moved
      split_ifs at moved with starting
      obtain rfl := Option.some.inj moved
      exact .turn impl.batch (Or.inr ⟨rfl, Or.inl starting⟩) rfl id
  | wake =>
      simp only [step] at moved
      split_ifs at moved with waiting
      obtain rfl := Option.some.inj moved
      rw [woken_eq]
      exact .turn impl.batch (Or.inr ⟨rfl, Or.inr waiting⟩) rfl id
  | writeEntry =>
      simp only [step] at moved
      split at moved
      · rename_i count entry at_count here
        obtain rfl := Option.some.inj moved
        rw [at_count, Worker.count] at here
        exact .handle count entry at_count here rfl rfl rfl rfl rfl rfl id
      · cases moved
  | finish =>
      simp only [step] at moved
      split_ifs at moved with through
      obtain rfl := Option.some.inj moved
      exact .turn [] (Or.inl ⟨rfl, through⟩) rfl id
  | stop =>
      simp only [step] at moved
      split_ifs at moved
      obtain rfl := Option.some.inj moved
      exact .keep ⟨rfl, rfl, rfl, rfl, rfl, fun _ => rfl, Or.inl⟩ id
  | join =>
      simp only [step] at moved
      split_ifs at moved with joined
      obtain rfl := Option.some.inj moved
      exact .keep ⟨rfl, rfl, rfl, rfl, rfl, id, fun _ => Or.inr joined.2.1⟩ id

/-! ## The invariant -/

/-- The part of the batch that is not written yet. -/
def Impl.unwritten (impl : Impl) : List LogEntry :=
  impl.batch.drop impl.worker.count

/-- The entries are handed over in order, and outside of `WriteBatch` the batch is empty. -/
structure Inv (impl : Impl) : Prop where
  handOver : HandOver impl.accepted impl.written impl.unwritten impl.queue
  idle : (∀ count, impl.worker ≠ .writing count) → impl.batch = []
  ended : impl.worker = .ended → impl.stopping = true
  joined : impl.destroyed = true → impl.worker = .ended

theorem inv_initial : Inv {} where
  handOver := HandOver.nil
  idle _ := rfl
  ended worker := by cases worker
  joined destroyed := by cases destroyed

/-- At the head of its loop the worker returns, waits or takes the queue over. -/
theorem inv_loopHead (alive : ¬ impl.destroyed = true) (empty : impl.batch = [])
    (handOver : HandOver impl.accepted impl.written [] impl.queue) : Inv (loopHead impl) := by
  rw [loopHead]
  split_ifs with stop wait
  · refine ⟨?_, fun _ => empty, fun _ => stop.1, fun _ => rfl⟩
    simpa [Impl.unwritten, empty] using handOver
  · refine ⟨?_, fun _ => empty, fun ended => ?_, fun destroyed => absurd destroyed alive⟩
    · simpa [Impl.unwritten, empty] using handOver
    · cases ended
  · refine ⟨?_, fun still => absurd rfl (still 0), fun ended => ?_,
      fun destroyed => absurd destroyed alive⟩
    · simpa [Impl.unwritten, collect, Worker.count, empty] using handOver.collect
    · cases ended

theorem inv_step (inv : Inv impl) (moved : step putTime impl action = some next) : Inv next := by
  cases effect_of_step moved with
  | keep keeps _ =>
      refine ⟨?_, ?_, ?_, ?_⟩
      · rw [Impl.unwritten, keeps.accepted, keeps.written, keeps.batch, keeps.queue, keeps.worker]
        exact inv.handOver
      · rw [keeps.batch, keeps.worker]
        exact inv.idle
      · intro ended
        rw [keeps.worker] at ended
        exact keeps.stopping (inv.ended ended)
      · intro destroyed
        rw [keeps.worker]
        exact (keeps.destroyed destroyed).elim inv.joined id
  | accept entry next_eq _ =>
      subst next_eq
      exact ⟨inv.handOver.accept entry, inv.idle, inv.ended, inv.joined⟩
  | handle count entry at_count here accepted written batch queue worker destroyed _ =>
      refine ⟨?_, fun still => absurd worker (still _), fun ended => ?_, fun joined => ?_⟩
      · have rest : impl.unwritten = entry :: impl.batch.drop (count + 1) := by
          obtain ⟨inside, entry_eq⟩ := List.getElem?_eq_some_iff.mp here
          rw [Impl.unwritten, at_count, Worker.count, List.drop_eq_getElem_cons inside, entry_eq]
        have before := inv.handOver
        rw [rest] at before
        rw [Impl.unwritten, accepted, written, batch, queue, worker]
        exact before.handle
      · rw [worker] at ended
        cases ended
      · have still := inv.joined (destroyed ▸ joined)
        rw [at_count] at still
        cases still
  | turn batch through next_eq _ =>
      subst next_eq
      have running : impl.worker ≠ .ended := by
        rcases through with ⟨-, worker⟩ | ⟨-, worker | worker⟩ <;> simp [worker]
      have alive : ¬ impl.destroyed = true := fun destroyed => running (inv.joined destroyed)
      have before := inv.handOver
      rcases through with ⟨rfl, at_end⟩ | ⟨rfl, at_wait⟩
      · rw [Impl.unwritten, at_end, Worker.count, List.drop_length] at before
        exact inv_loopHead alive rfl before
      · have empty : impl.batch = [] := by
          apply inv.idle
          rcases at_wait with worker | worker <;> simp [worker]
        rw [Impl.unwritten, empty, List.drop_nil] at before
        exact inv_loopHead alive empty before

theorem inv_run {actions : List Action} (inv : Inv impl)
    (ran : run putTime impl actions = some next) : Inv next := by
  induction actions generalizing impl with
  | nil =>
      obtain rfl := Option.some.inj ran
      exact inv
  | cons action actions ih =>
      obtain ⟨middle, moved, ran⟩ := Option.bind_eq_some_iff.mp ran
      exact ih (inv_step inv moved) ran

/-! ## The end of the worker -/

theorem queue_loopHead (ended : (loopHead impl).worker = .ended) : (loopHead impl).queue = [] := by
  rcases em (impl.stopping = true ∧ impl.queue = []) with stop | going
  · rw [loopHead, if_pos stop]
    exact stop.2
  · rw [loopHead, if_neg going] at ended
    split_ifs at ended
    cases ended

/-- The worker only returns with the stop flag set and nothing left to write. -/
theorem drained_of_ended (moved : step putTime impl action = some next)
    (running : impl.worker ≠ .ended) (ended : next.worker = .ended) (inv : Inv impl) :
    next.stopping = true ∧ next.batch = [] ∧ next.queue = [] := by
  have inv_next := inv_step inv moved
  refine ⟨inv_next.ended ended, inv_next.idle (by simp [ended]), ?_⟩
  cases effect_of_step moved with
  | keep keeps _ => exact absurd (keeps.worker ▸ ended) running
  | accept entry next_eq _ =>
      subst next_eq
      exact absurd ended running
  | handle count entry at_count here accepted written batch queue worker destroyed _ =>
      rw [worker] at ended
      cases ended
  | turn batch through next_eq _ =>
      subst next_eq
      exact queue_loopHead ended

/-- Once the worker has returned, entries only come to the queue, and only late ones. -/
theorem step_of_ended (moved : step putTime impl action = some next)
    (ended : impl.worker = .ended) :
    next.worker = .ended ∧ (next.queue = [] ↔ impl.queue = [] ∧ ¬ Late impl action) := by
  cases effect_of_step moved with
  | keep keeps in_time => exact ⟨keeps.worker.trans ended, by simp [keeps.queue, in_time]⟩
  | accept entry next_eq late_iff =>
      subst next_eq
      exact ⟨ended, by simp [late_iff.mpr ended]⟩
  | handle count entry at_count here accepted written batch queue worker destroyed _ =>
      rw [ended] at at_count
      cases at_count
  | turn batch through next_eq _ =>
      rw [ended] at through
      rcases through with ⟨-, worker⟩ | ⟨-, worker | worker⟩ <;> cases worker

/-- What waits when the worker has returned waits for ever. -/
theorem run_of_ended {actions : List Action} (ran : run putTime impl actions = some next)
    (ended : impl.worker = .ended) (nonempty : impl.queue ≠ []) : next.queue ≠ [] := by
  induction actions generalizing impl with
  | nil =>
      obtain rfl := Option.some.inj ran
      exact nonempty
  | cons action actions ih =>
      obtain ⟨middle, moved, ran⟩ := Option.bind_eq_some_iff.mp ran
      obtain ⟨still, queue_iff⟩ := step_of_ended moved ended
      exact ih ran still fun empty => nonempty (queue_iff.mp empty).1

/-- At the end of the worker the queue is empty exactly if no entry came late. -/
theorem queue_nil_iff_punctual {actions : List Action} (inv : Inv impl)
    (drained : impl.worker = .ended → impl.queue = [])
    (ran : run putTime impl actions = some next) (ended : next.worker = .ended) :
    next.queue = [] ↔ Punctual putTime impl actions := by
  induction actions generalizing impl with
  | nil =>
      obtain rfl := Option.some.inj ran
      simp [Punctual, drained ended]
  | cons action actions ih =>
      obtain ⟨middle, moved, ran⟩ := Option.bind_eq_some_iff.mp ran
      have later : Punctual putTime impl (action :: actions) ↔
          ¬ Late impl action ∧ Punctual putTime middle actions := by
        simp only [Punctual, moved, Option.some.injEq, forall_eq']
      rw [later]
      rcases em (Late impl action) with late | in_time
      · have worker : impl.worker = .ended := by
          cases action with
          | write level now message => exact late.1
          | _ => exact late.elim
        obtain ⟨still, queue_iff⟩ := step_of_ended moved worker
        have waits : middle.queue ≠ [] := fun empty => (queue_iff.mp empty).2 late
        simp only [late, not_true_eq_false, false_and, iff_false]
        exact run_of_ended ran still waits
      · have middle_drained : middle.worker = .ended → middle.queue = [] := by
          intro middle_ended
          rcases eq_or_ne impl.worker .ended with worker | running
          · exact (step_of_ended moved worker).2.mpr ⟨drained worker, in_time⟩
          · exact (drained_of_ended moved running middle_ended inv).2.2
        rw [ih (inv_step inv moved) middle_drained ran]
        exact ⟨fun punctual => ⟨in_time, punctual⟩, fun punctual => punctual.2⟩

/-- In every reachable state the accepted entries are what the worker has written, the rest of its
batch and the queue.  The worker returns only with the stop flag set and nothing left.  When the
destructor returns, everything accepted was written exactly if no entry was accepted late. -/
theorem accepted_written {putTime : Int → Bytes} {actions : List Action} {final : Impl}
    (ran : run putTime {} actions = some final) :
    final.accepted = final.written ++ final.unwritten ++ final.queue ∧
      (∀ action next, step putTime final action = some next → final.worker ≠ .ended →
        next.worker = .ended → next.stopping = true ∧ next.batch = [] ∧ next.queue = []) ∧
      (final.destroyed = true →
        (final.written = final.accepted ↔ Punctual putTime {} actions)) := by
  have inv := inv_run inv_initial ran
  refine ⟨inv.handOver, ?_, ?_⟩
  · intro action next moved running ended
    exact drained_of_ended moved running ended inv
  · intro destroyed
    have ended := inv.joined destroyed
    have handOver := inv.handOver
    have empty : final.batch = [] := inv.idle (by simp [ended])
    rw [Impl.unwritten, empty, List.drop_nil] at handOver
    rw [handOver.handled_eq_iff]
    exact queue_nil_iff_punctual inv_initial (fun worker => by cases worker) ran ended

/-- An entry is accepted while the worker writes another one, and the destructor follows. -/
def drainedActions : List Action :=
  [.start, .write .kInfo 1 (text "first"), .wake, .write .kError 2 (text "second"), .stop,
    .writeEntry, .finish, .writeEntry, .finish, .join]

theorem drainedActions_punctual : Punctual (fun _ => []) {} drainedActions :=
  ((@accepted_written (fun _ => []) drainedActions _ rfl).2.2 (by decide)).mp (by decide)

/-- An entry is accepted between the return of the worker and that of the destructor. -/
def lateActions : List Action :=
  [.start, .stop, .wake, .write .kError 1 (text "late"), .join]

theorem lateActions_lost :
    ∃ final, run (fun _ => []) {} lateActions = some final ∧ final.destroyed = true ∧
      final.accepted = [⟨.kError, 1, text "late"⟩] ∧ final.written = [] :=
  ⟨_, rfl, by decide⟩

end Logger

end Hxrpc
