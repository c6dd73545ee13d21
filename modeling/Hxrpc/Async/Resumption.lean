import Hxrpc.Async.Task
import Hxrpc.Syscall

/-!
# When coroutines are resumed

As long as every task is done when it is awaited, no coroutine is ever suspended on a task, and only
the runtime resumes coroutines that wait for a descriptor.  The first `co_await` on a task that is
not done breaks this: `await_suspend` resumes the awaited coroutine wherever it is.
-/

namespace Hxrpc

namespace Async

variable {Local Value Error : Type}

/-! ## What is expected of the machine -/

/-- The number of coroutines, one or none, that are suspended on a task under this handle. -/
def State.awaiting (state : State Local Value Error) (id : Nat) : Nat :=
  match state.frames id with
  | some ⟨.atTask _ _ _, _⟩ => 1
  | _ => 0

/-- How often a coroutine was suspended on a task. -/
def suspensions (id : Nat) : List Event → Nat
  | [] => 0
  | .suspended coroutine _ :: log => (if coroutine = id then 1 else 0) + suspensions id log
  | _ :: log => suspensions id log

/-- How often a coroutine was resumed on a task. -/
def resumptions (id : Nat) : List Event → Nat
  | [] => 0
  | .resumedAtTask coroutine _ _ :: log => (if coroutine = id then 1 else 0) + resumptions id log
  | _ :: log => resumptions id log

/-- Coroutines are resumed on a task exactly once and after it is done, and on a descriptor by the
runtime only. -/
structure ResumedInOrder (state : State Local Value Error) : Prop where
  afterDone : ∀ id task done, Event.resumedAtTask id task done ∈ state.log → done = true
  once : ∀ id, suspensions id state.log = resumptions id state.log + state.awaiting id
  handedOver : ∀ id task rvalue resume promise awaited,
    state.frames id = some ⟨.atTask task rvalue resume, promise⟩ →
    state.frames task = some awaited → awaited.promise.done = false
  byRuntime : ∀ id resumer, Event.resumedAtFd id resumer ∈ state.log → resumer = .resumeReady

/-- If a `co_await` on a task is next, then the task is done. -/
def awaitsDone (next : Local → Instruction Local Value Error) (state : State Local Value Error) :
    Action Local → Bool
  | .run thread =>
      match state.callStacks thread with
      | [] => true
      | id :: _ =>
          match state.frames id with
          | some ⟨.running code, _⟩ =>
              match next code with
              | .coAwait task _ _ => ((state.frames task).map (·.promise.done)).getD true
              | _ => true
          | _ => true
  | _ => true

/-! ## The invariant -/

/-- A coroutine that is in its body, at its end or waits for a descriptor, that nobody waits for and
whose promise is done as soon as it holds something. -/
structure Frame.Settled (frame : Frame Local Value Error) : Prop where
  point : (∃ code, frame.point = .running code) ∨
    (∃ token resume, frame.point = .atFd token resume) ∨ frame.point = .atFinal
  continuation : frame.promise.continuation = none
  done : frame.promise.done = (awaitResume frame.promise).isSome
  unfinished : frame.point ≠ .atFinal → frame.promise.done = false

/-- Nobody is suspended on a task, nor about to be. -/
theorem Frame.Settled.not_atTask {frame : Frame Local Value Error} (settled : frame.Settled)
    {task : Nat} {rvalue : Bool} {resume : Except Error Value → Local} :
    frame.point ≠ .atTask task rvalue resume ∧ frame.point ≠ .suspending task rvalue resume := by
  rcases settled.point with ⟨code, point⟩ | ⟨token, ready, point⟩ | point <;> simp [point]

/-- No coroutine is suspended on a task, and the registered coroutines are those that wait. -/
structure Settled (state : State Local Value Error) : Prop where
  frames : ∀ {id frame}, state.frames id = some frame → frame.Settled
  unused : ∀ id, state.created ≤ id → state.frames id = none
  registered : ∀ {token id}, state.registrations token = some id →
    ∃ resume promise, state.frames id = some ⟨.atFd token resume, promise⟩
  log : ∀ event ∈ state.log, ∃ id, event = .resumedAtFd id .resumeReady

@[simp] theorem frames_destroy (state : State Local Value Error) (task : Nat) :
    (state.destroy task).frames = Function.update state.frames task none := by
  simp only [State.destroy]
  split <;> rfl

theorem settled_initial : Settled ({} : State Local Value Error) := by
  constructor <;> simp

namespace Settled

variable {state : State Local Value Error}

/-- Nobody waits for a descriptor in the name of a coroutine that runs. -/
theorem not_registered (settled : Settled state) {id : Nat} {code : Local}
    {promise : Promise Value Error} (current : state.frames id = some ⟨.running code, promise⟩)
    (token : Nat) : state.registrations token ≠ some id := by
  intro registered
  obtain ⟨resume, other, same⟩ := settled.registered registered
  simp [current] at same

theorem setFrame (settled : Settled state) {id : Nat} {frame : Frame Local Value Error}
    (existing : state.frames id ≠ none)
    (unregistered : ∀ token, state.registrations token ≠ some id)
    (frame_settled : frame.Settled) : Settled (state.setFrame id frame) where
  frames := by
    intro other found same
    by_cases eq : other = id
    · subst eq
      obtain rfl : frame = found := by simpa [State.setFrame] using same
      exact frame_settled
    · exact settled.frames (by simpa [State.setFrame, eq] using same)
  unused := by
    intro other late
    have ne : other ≠ id := by
      rintro rfl
      exact existing (settled.unused other late)
    simpa [State.setFrame, ne] using settled.unused other late
  registered := by
    intro token other registered
    obtain ⟨resume, promise, same⟩ := settled.registered registered
    have ne : other ≠ id := by
      rintro rfl
      exact unregistered token registered
    exact ⟨resume, promise, by simpa [State.setFrame, ne] using same⟩
  log := settled.log

theorem setStack (settled : Settled state) (thread : Nat) (stack : List Nat) :
    Settled (state.setStack thread stack) :=
  ⟨settled.frames, settled.unused, settled.registered, settled.log⟩

theorem cancel (settled : Settled state) (token : Nat) : Settled (state.cancel token) where
  frames := settled.frames
  unused := settled.unused
  registered := by
    intro other id registered
    have ne : other ≠ token := by
      rintro rfl
      simp [State.cancel] at registered
    exact settled.registered (by simpa [State.cancel, ne] using registered)
  log := settled.log

theorem record (settled : Settled state) (id : Nat) :
    Settled (state.record (.resumedAtFd id .resumeReady)) where
  frames := settled.frames
  unused := settled.unused
  registered := settled.registered
  log := by
    intro event member
    rcases List.mem_append.mp member with member | member
    · exact settled.log event member
    · exact ⟨id, List.mem_singleton.mp member⟩

theorem create (settled : Settled state) (body : Local) : Settled (state.create body) where
  frames := by
    intro id frame same
    by_cases eq : id = state.created
    · subst eq
      obtain rfl : ⟨.running body, {}⟩ = frame := by
        simpa [State.create, State.setFrame] using same
      exact ⟨Or.inl ⟨body, rfl⟩, rfl, rfl, fun _ => rfl⟩
    · exact settled.frames (by simpa [State.create, State.setFrame, eq] using same)
  unused := by
    intro id late
    have ne : id ≠ state.created := Nat.ne_of_gt late
    simpa [State.create, State.setFrame, ne] using settled.unused id (Nat.le_of_succ_le late)
  registered := by
    intro token id registered
    obtain ⟨resume, promise, same⟩ := settled.registered registered
    have ne : id ≠ state.created := by
      rintro rfl
      simp [settled.unused state.created (Nat.le_refl _)] at same
    exact ⟨resume, promise, by simpa [State.create, State.setFrame, ne] using same⟩
  log := settled.log

/-- A destroyed coroutine leaves no registration behind. -/
theorem destroy (settled : Settled state) (task : Nat) : Settled (state.destroy task) := by
  have created_eq : (state.destroy task).created = state.created := by
    simp only [State.destroy]
    split <;> rfl
  have log_eq : (state.destroy task).log = state.log := by
    simp only [State.destroy]
    split <;> rfl
  have registered_of : ∀ {token id}, (state.destroy task).registrations token = some id →
      state.registrations token = some id ∧ id ≠ task := by
    intro token id registered
    simp only [State.destroy] at registered
    split at registered
    · rename_i own resume promise point
      have ne : token ≠ own := by
        rintro rfl
        simp [State.cancel] at registered
      have before : state.registrations token = some id := by
        simpa [State.cancel, ne] using registered
      refine ⟨before, ?_⟩
      rintro rfl
      obtain ⟨_, _, same⟩ := settled.registered before
      simp [same] at point
      exact ne point.1.1
    · rename_i no_wait
      refine ⟨registered, ?_⟩
      rintro rfl
      obtain ⟨_, _, same⟩ := settled.registered registered
      exact no_wait _ _ _ same
  constructor
  · intro id frame same
    rw [frames_destroy] at same
    by_cases eq : id = task
    · simp [eq] at same
    · exact settled.frames (by simpa [eq] using same)
  · intro id late
    rw [created_eq] at late
    rw [frames_destroy]
    by_cases eq : id = task
    · simp [eq]
    · simpa [eq] using settled.unused id late
  · intro token id registered
    obtain ⟨before, ne⟩ := registered_of registered
    obtain ⟨resume, promise, same⟩ := settled.registered before
    rw [frames_destroy]
    exact ⟨resume, promise, by simpa [ne] using same⟩
  · rw [log_eq]
    exact settled.log

/-- The bookkeeping of runs is in order. -/
theorem resumedInOrder (settled : Settled state) : ResumedInOrder state where
  afterDone := by
    intro id task done member
    obtain ⟨_, same⟩ := settled.log _ member
    cases same
  once := by
    intro id
    have counted : ∀ log : List Event, (∀ event ∈ log, ∃ id, event = .resumedAtFd id .resumeReady) →
        suspensions id log = 0 ∧ resumptions id log = 0 := by
      intro log
      induction log with
      | nil => exact fun _ => ⟨rfl, rfl⟩
      | cons event log ih =>
          intro all
          obtain ⟨other, rfl⟩ := all event List.mem_cons_self
          exact ih fun event member => all event (List.mem_cons_of_mem _ member)
    have idle : state.awaiting id = 0 := by
      simp only [State.awaiting]
      split
      · rename_i found
        exact absurd rfl (settled.frames found).not_atTask.1
      · rfl
    rw [(counted state.log settled.log).1, (counted state.log settled.log).2, idle]
  handedOver := by
    intro id task rvalue resume promise awaited found
    exact absurd rfl (settled.frames found).not_atTask.1
  byRuntime := by
    intro id resumer member
    obtain ⟨_, same⟩ := settled.log _ member
    cases same
    rfl

end Settled

/-! ## One step -/

section Step

variable {state : State Local Value Error} {thread id : Nat} {rest : List Nat} {code : Local}
  {promise : Promise Value Error}

/-- A coroutine that runs is not done. -/
theorem Settled.not_done (settled : Settled state)
    (current : state.frames id = some ⟨.running code, promise⟩) : promise.done = false :=
  (settled.frames current).unfinished nofun

/-- A coroutine that runs goes on in its body. -/
theorem Settled.advance (settled : Settled state)
    (current : state.frames id = some ⟨.running code, promise⟩) (behind : Local) :
    Settled (state.setFrame id ⟨.running behind, promise⟩) := by
  have frame := settled.frames current
  exact settled.setFrame (by simp [current]) (settled.not_registered current)
    ⟨Or.inl ⟨behind, rfl⟩, frame.continuation, frame.done, fun _ => settled.not_done current⟩

/-- A coroutine that runs waits for a descriptor from now on. -/
theorem Settled.wait (settled : Settled state)
    (current : state.frames id = some ⟨.running code, promise⟩) (resume : Bool → Local) :
    Settled { state.setFrame id ⟨.atFd state.nextToken resume, promise⟩ with
      registrations := Function.update state.registrations state.nextToken (some id)
      nextToken := state.nextToken + 1 } := by
  have frame := settled.frames current
  have waiting : Settled (state.setFrame id ⟨.atFd state.nextToken resume, promise⟩) :=
    settled.setFrame (by simp [current]) (settled.not_registered current)
      ⟨Or.inr (Or.inl ⟨_, _, rfl⟩), frame.continuation, frame.done,
        fun _ => settled.not_done current⟩
  refine ⟨waiting.frames, waiting.unused, ?_, waiting.log⟩
  intro token other registered
  by_cases same : token = state.nextToken
  · subst same
    obtain rfl : id = other := by simpa using registered
    exact ⟨resume, promise, by simp [State.setFrame]⟩
  · exact waiting.registered (by simpa [State.setFrame, same] using registered)

/-- A coroutine whose wait is over and no longer registered goes on. -/
theorem Settled.wake (settled : Settled state) {token : Nat} {resume : Bool → Local}
    (waiting : state.frames id = some ⟨.atFd token resume, promise⟩) (behind : Local) :
    Settled ((state.cancel token).setFrame id ⟨.running behind, promise⟩) := by
  have frame := settled.frames waiting
  have unregistered : ∀ other, (state.cancel token).registrations other ≠ some id := by
    intro other registered
    obtain ⟨_, _, same⟩ := (settled.cancel token).registered registered
    obtain rfl : token = other := by
      have points : some _ = some _ := waiting.symm.trans same
      simpa using (Point.atFd.inj (congrArg Frame.point (Option.some.inj points))).1
    simp [State.cancel] at registered
  exact (settled.cancel token).setFrame (by simp [State.cancel, waiting]) unregistered
    ⟨Or.inl ⟨behind, rfl⟩, frame.continuation, frame.done, fun _ => frame.unfinished nofun⟩

variable [Movable Value]

/-- The value of a coroutine at its end is moved out. -/
theorem Settled.moveOut (settled : Settled state) {task : Nat} {awaited : Frame Local Value Error}
    (found : state.frames task = some awaited) (done : awaited.promise.done = true) :
    Settled (state.setFrame task { awaited with promise := awaited.promise.moveOut }) := by
  have frame := settled.frames found
  refine settled.setFrame (by simp [found]) ?_ ?_
  · intro token registered
    obtain ⟨resume, promise, same⟩ := settled.registered registered
    obtain rfl := Option.some.inj (found.symm.trans same)
    cases done.symm.trans (frame.unfinished nofun)
  · constructor
    · exact frame.point
    · exact (continuation_moveOut _).trans frame.continuation
    · rw [done_moveOut, awaitResume_moveOut, Option.isSome_map]
      exact frame.done
    · intro unfinished
      exact (done_moveOut _).trans (frame.unfinished unfinished)

/-- The end of a coroutine whose promise holds something: nobody waits for it. -/
theorem finalSuspend_settled (settled : Settled state)
    (current : state.frames id = some ⟨.running code, promise⟩) {final : Promise Value Error}
    (unawaited : final.continuation = none) (holds : (awaitResume final).isSome) :
    ∃ behind, finalSuspend state thread rest id final = .ok behind ∧ Settled behind := by
  have finished : Settled (state.setFrame id ⟨.atFinal, { final with done := true }⟩) :=
    settled.setFrame (by simp [current]) (settled.not_registered current)
      ⟨Or.inr (Or.inr rfl), unawaited, holds.symm, fun other => absurd rfl other⟩
  have suspended : finalSuspend state thread rest id final =
      .ok ((state.setFrame id ⟨.atFinal, { final with done := true }⟩).setStack thread rest) := by
    simp only [finalSuspend, unawaited]
  exact ⟨_, suspended, finished.setStack thread rest⟩

/-- `await_resume` on a task that is done finds a value or an exception. -/
theorem finishAwait_settled (settled : Settled state)
    (current : state.frames id = some ⟨.running code, promise⟩) {task : Nat}
    {awaited : Frame Local Value Error} (found : state.frames task = some awaited)
    (done : awaited.promise.done = true) (rvalue : Bool) (resume : Except Error Value → Local) :
    ∃ behind, finishAwait state id promise task rvalue resume = .ok behind ∧ Settled behind := by
  have holds := (settled.frames found).done
  rw [done] at holds
  obtain ⟨result, result_eq⟩ := Option.isSome_iff_exists.mp holds.symm
  have ne : id ≠ task := by
    rintro rfl
    obtain rfl : ⟨.running code, promise⟩ = awaited := by simpa [current] using found
    simp [settled.not_done current] at done
  simp only [finishAwait, found, result_eq]
  refine ⟨_, rfl, ?_⟩
  cases rvalue with
  | false =>
      have kept : (state.setFrame task { awaited with
          promise := awaited.promise.moveOut }).frames id = some ⟨.running code, promise⟩ := by
        simpa [State.setFrame, ne] using current
      exact (settled.moveOut found done).advance kept (resume result)
  | true =>
      have kept : (state.destroy task).frames id = some ⟨.running code, promise⟩ := by
        simpa [ne] using current
      exact (settled.destroy task).advance kept (resume result)

/-- One instruction, when the task of a `co_await` is done. -/
theorem execute_settled (settled : Settled state)
    (current : state.frames id = some ⟨.running code, promise⟩)
    {instruction : Instruction Local Value Error}
    (awaits : ∀ task rvalue resume awaited, instruction = .coAwait task rvalue resume →
      state.frames task = some awaited → awaited.promise.done = true)
    {result : Except Fault (State Local Value Error)}
    (executed : execute state thread rest id promise instruction = some result) :
    ∃ behind, result = .ok behind ∧ Settled behind := by
  have frame := settled.frames current
  cases instruction with
  | coReturn value =>
      obtain rfl := Option.some.inj executed
      refine finalSuspend_settled settled current frame.continuation ?_
      simp only [awaitResume]
      split <;> rfl
  | throwOut error =>
      obtain rfl := Option.some.inj executed
      exact finalSuspend_settled settled current frame.continuation rfl
  | waitFor resume =>
      obtain rfl := Option.some.inj executed
      exact ⟨_, rfl, (settled.wait current resume).setStack thread rest⟩
  | call body resume =>
      obtain rfl := Option.some.inj executed
      refine ⟨_, rfl, Settled.setStack ?_ thread _⟩
      have ne : id ≠ state.created := by
        rintro rfl
        simp [settled.unused state.created (Nat.le_refl _)] at current
      have kept : (state.create body).frames id = some ⟨.running code, promise⟩ := by
        simpa [State.create, State.setFrame, ne] using current
      exact (settled.create body).advance kept (resume state.created)
  | coAwait task rvalue resume =>
      obtain ⟨awaited, found, rfl⟩ := Option.map_eq_some_iff.mp executed
      have done := awaits task rvalue resume awaited rfl found
      rw [if_pos done]
      exact finishAwait_settled settled current found done rvalue resume
  | discard task resume =>
      have kept : state.frames task ≠ some ⟨.running code, promise⟩ →
          (state.destroy task).frames id = some ⟨.running code, promise⟩ := by
        intro other
        have ne : id ≠ task := by
          rintro rfl
          exact other current
        simpa [ne] using current
      simp only [execute] at executed
      split at executed
      all_goals first
        | cases executed
          done
        | rename_i suspended
          obtain rfl := Option.some.inj executed
          exact ⟨_, rfl, (settled.destroy task).advance (kept (by simp [suspended])) resume⟩

/-- One step, when the task of a `co_await` is done. -/
theorem step_settled {next : Local → Instruction Local Value Error} (settled : Settled state)
    {action : Action Local} (awaits : awaitsDone next state action)
    {result : Except Fault (State Local Value Error)}
    (moved : step next state action = some result) :
    ∃ behind, result = .ok behind ∧ Settled behind := by
  cases action with
  | call thread body =>
      simp only [step] at moved
      split at moved
      · cases moved
      · obtain rfl := Option.some.inj moved
        exact ⟨_, rfl, (settled.create body).setStack thread _⟩
  | run thread =>
      simp only [step] at moved
      split at moved
      · cases moved
      · rename_i id rest stack
        split at moved
        · rename_i code promise current
          refine execute_settled settled current ?_ moved
          intro task rvalue resume awaited instruction found
          simpa [awaitsDone, stack, current, instruction, found] using awaits
        · rename_i current
          exact absurd rfl (settled.frames current).not_atTask.2
        · cases moved
  | resumeReady token timedOut =>
      simp only [step] at moved
      split at moved
      · cases moved
      · obtain ⟨id, registered, rfl⟩ := Option.map_eq_some_iff.mp moved
        obtain ⟨resume, promise, waiting⟩ := settled.registered registered
        have frame := settled.frames waiting
        have found : (state.cancel token).frames id = some ⟨.atFd token resume, promise⟩ := waiting
        simp only [resumeHandle, found]
        exact ⟨_, rfl, (((settled.wake waiting _).cancel token).setStack _ _).record id⟩

end Step

/-! ## The first await on a task that is not done -/

/-- `await_suspend` resumes the awaited coroutine although what that waits for is not over, or
resumes a coroutine that cannot be resumed. -/
theorem awaitSuspend_breaks [Movable Value] {state : State Local Value Error}
    (settled : Settled state) {thread id task : Nat} {rest : List Nat} {code : Local}
    {promise : Promise Value Error}
    (current : state.frames id = some ⟨.running code, promise⟩)
    {awaited : Frame Local Value Error} (found : state.frames task = some awaited)
    (early : awaited.promise.done = false) (rvalue : Bool) (resume : Except Error Value → Local)
    {behind : State Local Value Error}
    (suspended : awaitSuspend (state.setFrame id ⟨.suspending task rvalue resume, promise⟩) thread
      rest id promise task rvalue resume = .ok behind) : ¬ ResumedInOrder behind := by
  have frame := settled.frames found
  have empty : awaitResume awaited.promise = none := by
    simpa [early] using frame.done.symm
  by_cases same : task = id
  · -- A coroutine that awaits itself finds its own promise empty.
    subst same
    obtain rfl : ⟨.running code, promise⟩ = awaited := by simpa [current] using found
    have still_empty : awaitResume { promise with continuation := some task } = none := empty
    simp [awaitSuspend, transfer, resumeHandle, finishAwait, State.setFrame, State.record,
      State.setStack, still_empty] at suspended
  · rcases frame.point with ⟨_, point⟩ | ⟨token, ready, point⟩ | point
    · simp [awaitSuspend, transfer, resumeHandle, State.setFrame, State.record, same, found,
        point] at suspended
    · intro ordered
      have resumed : Event.resumedAtFd task .transfer ∈ behind.log := by
        simp [awaitSuspend, transfer, resumeHandle, State.setFrame, State.record, same, found,
          point] at suspended
        simp [← suspended, State.cancel, State.setStack]
      cases ordered.byRuntime task .transfer resumed
    · simp [awaitSuspend, transfer, resumeHandle, State.setFrame, State.record, same, found,
        point] at suspended

/-- A `co_await` on a task that is not done breaks the order with the next step of the coroutine. -/
theorem step_breaks [Movable Value] {next : Local → Instruction Local Value Error}
    {state : State Local Value Error} (settled : Settled state) {thread : Nat}
    (early : awaitsDone next state (.run thread) = false) :
    ∃ middle result, step next state (.run thread) = some (.ok middle) ∧
      step next middle (.run thread) = some result ∧
      ∀ behind, result = .ok behind → ¬ ResumedInOrder behind := by
  simp only [awaitsDone] at early
  split at early
  · cases early
  rename_i id rest stack
  split at early
  case h_2 => cases early
  rename_i code promise current
  split at early
  case h_2 => cases early
  rename_i task rvalue resume instruction
  obtain ⟨awaited, found⟩ : ∃ awaited, state.frames task = some awaited := by
    cases found : state.frames task with
    | none => simp [found] at early
    | some awaited => exact ⟨awaited, rfl⟩
  have not_done : awaited.promise.done = false := by simpa [found] using early
  let middle := state.setFrame id ⟨.suspending task rvalue resume, promise⟩
  refine ⟨middle, awaitSuspend middle thread rest id promise task rvalue resume, ?_, ?_, ?_⟩
  · simp [middle, step, stack, current, execute, instruction, found, not_done]
  · simp [middle, step, State.setFrame, stack]
  · intro behind suspended
    exact awaitSuspend_breaks settled current found not_done rvalue resume suspended

/-! ## Whole runs -/

theorem settled_of_run [Movable Value] {next : Local → Instruction Local Value Error}
    {state : State Local Value Error}
    (run : Run next (fun state action => awaitsDone next state action) state) : Settled state := by
  apply run.invariant Settled settled_initial
  intro state behind action settled permitted moved
  obtain ⟨other, same, settled⟩ := step_settled settled permitted moved
  obtain rfl := Except.ok.inj same
  exact settled

/-- In every run in which each task is done when it is awaited, coroutines are resumed in order and
no undefined behaviour is reached; the first `co_await` on another task breaks the order. -/
theorem resumed_in_order_of_awaitsDone [Movable Value]
    {next : Local → Instruction Local Value Error} {state : State Local Value Error}
    (run : Run next (fun state action => awaitsDone next state action) state) :
    ResumedInOrder state ∧
      (∀ action fault, awaitsDone next state action →
        step next state action ≠ some (.error fault)) ∧
      ∀ thread, awaitsDone next state (.run thread) = false →
        ∃ middle result, step next state (.run thread) = some (.ok middle) ∧
          step next middle (.run thread) = some result ∧
          ∀ behind, result = .ok behind → ¬ ResumedInOrder behind := by
  have settled := settled_of_run run
  refine ⟨settled.resumedInOrder, ?_, fun thread early => step_breaks settled early⟩
  intro action fault awaits moved
  obtain ⟨behind, same, -⟩ := step_settled settled awaits moved
  cases same

/-! ## `ReceiveFrameAsync` over `RecvAllAsync` -/

/-- The start of `ReceiveFrameAsync`, and `RecvAllAsync` with what its calls of `recv` are going to
return. -/
inductive ReceiveCode where
  /-- `ReceiveFrameAsync` calls `RecvAllAsync`. -/
  | receiveFrameAsync (recvs : List RecvResult)
  /-- `co_await recv_prefix_task`. -/
  | awaitPrefix (task : Nat)
  /-- `ReceiveFrameAsync` has the result. -/
  | received (result : Except Unit Bool)
  /-- `RecvAllAsync` begins. -/
  | recvAllAsync (size : Nat) (recvs : List RecvResult)
  /-- A wait of `RecvAllAsync` is over. -/
  | woken (missing : Nat) (recvs : List RecvResult) (readable : Bool)

/-- The loop of `RecvAllAsync` while it need not wait: whether it got its bytes, or how many it
still misses. -/
def recvAvailable : Nat → List RecvResult → Bool ⊕ Nat × List RecvResult
  | 0, _ => .inl true
  | missing, [] => .inr (missing, [])
  | _, .bytes [] :: _ => .inl false
  | missing, .bytes chunk :: recvs => recvAvailable (missing - chunk.length) recvs
  | missing, .eintr :: recvs => recvAvailable missing recvs
  | missing, .eagain :: recvs => .inr (missing, recvs)
  | _, .error _ :: _ => .inl false

/-- `RecvAllAsync` from the head of its loop on. -/
def recvAllAsync (missing : Nat) (recvs : List RecvResult) : Instruction ReceiveCode Bool Unit :=
  match recvAvailable missing recvs with
  | .inl received => .coReturn received
  | .inr (missing, recvs) => .waitFor (.woken missing recvs)

/-- Their instructions; the result says whether the bytes came. -/
def receiveNext : ReceiveCode → Instruction ReceiveCode Bool Unit
  | .receiveFrameAsync recvs => .call (.recvAllAsync 4 recvs) .awaitPrefix
  | .awaitPrefix task => .coAwait task false .received
  | .received (.ok received) => .coReturn received
  | .received (.error error) => .throwOut error
  | .recvAllAsync size recvs => recvAllAsync size recvs
  | .woken missing recvs true => recvAllAsync missing recvs
  | .woken _ _ false => .coReturn false

instance movableBool : Movable Bool := ⟨id⟩

/-- The prefix comes in two pieces, with a wait before each of them, before it is awaited. -/
theorem resumed_in_order_of_readable_prefix :
    ∃ state, Run receiveNext (fun state action => awaitsDone receiveNext state action) state ∧
      state.log = [.resumedAtFd 1 .resumeReady, .resumedAtFd 1 .resumeReady] ∧
      ResumedInOrder state := by
  have called : Run receiveNext (fun state action => awaitsDone receiveNext state action) _ :=
    .step (.run 1) (.step (.call 1 (.receiveFrameAsync
      [.eagain, .bytes [0, 0], .eintr, .eagain, .bytes [0, 4]])) .initial rfl rfl) rfl rfl
  have waiting := GuardedRun.step (.run 1) called rfl rfl
  have half := GuardedRun.step (.run 0) (.step (.resumeReady 1 false) waiting rfl rfl) rfl rfl
  have whole := GuardedRun.step (.run 0) (.step (.resumeReady 2 false) half rfl rfl) rfl rfl
  have awaited := GuardedRun.step (.run 1) whole rfl rfl
  exact ⟨_, awaited, rfl, (resumed_in_order_of_awaitsDone awaited).1⟩

/-- `ReceiveFrameAsync` awaits `RecvAllAsync` while that waits for the socket: `RecvAllAsync` goes
on although nothing can be read. -/
theorem not_resumed_in_order_of_waiting_prefix :
    ¬ ∀ state, Run receiveNext (fun _ _ => True) state → ResumedInOrder state := by
  intro ordered
  have called : Run receiveNext (fun _ _ => True) _ :=
    .step (.run 1) (.step (.call 1 (.receiveFrameAsync [.eagain, .eagain])) .initial trivial rfl)
      trivial rfl
  have waiting := GuardedRun.step (.run 1) called trivial rfl
  have resumed := GuardedRun.step (.run 1) (.step (.run 1) waiting trivial rfl) trivial rfl
  cases (ordered _ resumed).byRuntime 1 .transfer (by decide)

end Async

end Hxrpc
