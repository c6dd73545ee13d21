import Hxrpc.Async.Resumption

/-!
# Coroutines that never wait for a descriptor

Such a coroutine runs to its end on top of its caller, so it means what it would mean as a plain
function: a call gives the result of the callee, and `co_await` takes it.  The machine of
coroutines computes this meaning on every thread, whatever the other threads do.
-/

namespace Hxrpc

namespace Async

variable {Local Value Error : Type}

/-! ## The plain meaning -/

/-- The tasks that a body has, with what their promises hold. -/
abbrev Tasks (Value Error : Type) : Type := Nat → Option (Except Error Value)

/-- A body, read as the body of a plain function, ends with an outcome after so many instructions,
those of its callees included.  It has destroyed its tasks then, and it never waits for a
descriptor.  `co_await` on an lvalue takes the result out of a task that stays. -/
inductive Evaluates [Movable Value] (next : Local → Instruction Local Value Error) :
    Tasks Value Error → Local → Except Error Value → Nat → Prop where
  | coReturn {tasks : Tasks Value Error} {code : Local} {value : Value}
      (reached : next code = .coReturn value) (released : ∀ task, tasks task = none) :
      Evaluates next tasks code (.ok value) 1
  | throwOut {tasks : Tasks Value Error} {code : Local} {error : Error}
      (reached : next code = .throwOut error) (released : ∀ task, tasks task = none) :
      Evaluates next tasks code (.error error) 1
  | call {tasks : Tasks Value Error} {code body : Local} {resume : Nat → Local}
      {result outcome : Except Error Value} {callee rest : Nat}
      (reached : next code = .call body resume)
      (called : Evaluates next (fun _ => none) body result callee)
      (resumed : ∀ task, tasks task = none →
        Evaluates next (Function.update tasks task (some result)) (resume task) outcome rest) :
      Evaluates next tasks code outcome (callee + rest + 1)
  | coAwait {tasks : Tasks Value Error} {code : Local} {task : Nat} {rvalue : Bool}
      {resume : Except Error Value → Local} {result outcome : Except Error Value} {rest : Nat}
      (reached : next code = .coAwait task rvalue resume) (owned : tasks task = some result)
      (resumed : Evaluates next (Function.update tasks task
        (if rvalue then none else some (result.map Movable.movedFrom))) (resume result) outcome
          rest) :
      Evaluates next tasks code outcome (rest + 1)
  | discard {tasks : Tasks Value Error} {code resume : Local} {task : Nat}
      {result outcome : Except Error Value} {rest : Nat}
      (reached : next code = .discard task resume) (owned : tasks task = some result)
      (resumed : Evaluates next (Function.update tasks task none) resume outcome rest) :
      Evaluates next tasks code outcome (rest + 1)

theorem Evaluates.pos [Movable Value] {next : Local → Instruction Local Value Error}
    {tasks : Tasks Value Error} {code : Local} {outcome : Except Error Value} {moves : Nat}
    (evaluates : Evaluates next tasks code outcome moves) : 0 < moves := by
  cases evaluates <;> omega

/-- Without its only task a body has none. -/
theorem released_of_only {tasks : Tasks Value Error} {task : Nat}
    (only : ∀ other, other ≠ task → tasks other = none) (other : Nat) :
    Function.update tasks task none other = none := by
  by_cases same : other = task
  · simp [same]
  · simp [same, only other same]

/-! ## What is known of the coroutines -/

/-- What the first `Task::Get` throws or returns, once it does not block. -/
def get (state : State Local Value Error) (task : Nat) : Option (Except Error Value) :=
  match state.frames task with
  | some frame => if frame.promise.done then awaitResume frame.promise else none
  | none => none

/-- A coroutine that stands at its final suspension point with a result. -/
def Ended (state : State Local Value Error) (task : Nat) (result : Except Error Value) : Prop :=
  ∃ promise, state.frames task = some ⟨.atFinal, promise⟩ ∧ promise.done = true ∧
    awaitResume promise = some result

theorem Ended.get {state : State Local Value Error} {task : Nat} {result : Except Error Value}
    (ended : Ended state task result) : get state task = some result := by
  obtain ⟨promise, frame, done, held⟩ := ended
  simp [Async.get, frame, done, held]

/-- A coroutine that ended is not in its body. -/
theorem Ended.ne_of_running {state : State Local Value Error} {task id : Nat}
    {result : Except Error Value} {code : Local} {promise : Promise Value Error}
    (ended : Ended state task result)
    (running : state.frames id = some ⟨.running code, promise⟩) : task ≠ id := by
  rintro rfl
  obtain ⟨other, frame, -, -⟩ := ended
  simp [running] at frame

/-- Who called each coroutine, if it was one, and what its task holds from its end on. -/
structure Account (Value Error : Type) where
  /-- The coroutine that has the task. -/
  caller : Nat → Option Nat
  /-- The result, or what a `co_await` left of it. -/
  outcome : Nat → Except Error Value

/-! ## What one step leaves alone -/

/-- A step of one coroutine, or the call of it, concerns this coroutine, the tasks that it has and
coroutines that are new. -/
structure Elsewhere (account : Account Value Error) (state : State Local Value Error) (id : Nat)
    (later : Account Value Error) (behind : State Local Value Error) : Prop where
  frames : ∀ {other}, other < state.created → other ≠ id → account.caller other ≠ some id →
    behind.frames other = state.frames other
  caller : ∀ {other}, other < state.created → later.caller other = account.caller other
  outcome : ∀ {other}, other < state.created → account.caller other ≠ some id →
    later.outcome other = account.outcome other
  fresh : ∀ {other}, state.created ≤ other → later.caller other = some id ∨
    later.caller other = none ∧ (other = id ∨ behind.frames other = none)

section Ended

variable {account later : Account Value Error} {state behind : State Local Value Error} {id : Nat}

theorem Ended.elsewhere {other : Nat} {result : Except Error Value}
    (ended : Ended state other result) (elsewhere : Elsewhere account state id later behind)
    (early : other < state.created) (ne : other ≠ id) (away : account.caller other ≠ some id) :
    Ended behind other result := by
  obtain ⟨promise, frame, done, held⟩ := ended
  exact ⟨promise, (elsewhere.frames early ne away).trans frame, done, held⟩

/-- The coroutine of a step is in its body, unless it is new. -/
abbrev Busy (state : State Local Value Error) (id : Nat) : Prop :=
  id < state.created → ∃ code, state.frames id = some ⟨.running code, {}⟩

theorem Busy.not_ended (busy : Busy state id) {result : Except Error Value}
    (early : id < state.created) : ¬ Ended state id result := by
  intro ended
  obtain ⟨code, running⟩ := busy early
  exact ended.ne_of_running running rfl

/-- No coroutine called itself. -/
theorem ne_of_called {rest : List Nat} (called : account.caller id = rest.head?)
    (above : id ∉ rest) {other : Nat} (called_by_id : account.caller other = some id) :
    other ≠ id := by
  rintro rfl
  exact above (List.mem_of_mem_head? (called ▸ called_by_id))

end Ended

@[simp] theorem created_destroy (state : State Local Value Error) (task : Nat) :
    (state.destroy task).created = state.created := by
  simp only [State.destroy]
  split <;> rfl

@[simp] theorem callStacks_destroy (state : State Local Value Error) (task : Nat) :
    (state.destroy task).callStacks = state.callStacks := by
  simp only [State.destroy]
  split <;> rfl

theorem frames_setFrame_destroy (state : State Local Value Error) (task id : Nat)
    (frame : Frame Local Value Error) : ((state.destroy task).setFrame id frame).frames =
      Function.update (Function.update state.frames task none) id (some frame) := by
  simp only [State.setFrame, frames_destroy]

theorem registrations_destroy {state : State Local Value Error}
    (idle : ∀ token, state.registrations token = none) (task token : Nat) :
    (state.destroy task).registrations token = none := by
  simp only [State.destroy]
  split
  · simp [State.cancel, Function.update_apply, idle]
  · exact idle token

/-- What is left of the frame of a task, and what the task holds then. -/
inductive Keeps : Option (Frame Local Value Error) → Option (Except Error Value) → Prop where
  | destroyed : Keeps none none
  | holds {promise : Promise Value Error} {result : Except Error Value}
      (done : promise.done = true) (held : awaitResume promise = some result) :
      Keeps (some ⟨.atFinal, promise⟩) (some result)

/-- What is put into a task. -/
def Account.keep (account : Account Value Error) (task : Nat)
    (kept : Option (Except Error Value)) : Account Value Error :=
  { account with
    outcome := Function.update account.outcome task (kept.getD (account.outcome task)) }

/-! ## The invariant -/

variable [Movable Value]

/-- A coroutine in its body that has so many instructions left and waits at most for the end of the
coroutine that it called last. -/
structure Active (next : Local → Instruction Local Value Error) (account : Account Value Error)
    (state : State Local Value Error) (pending : Option Nat) (id : Nat) (code : Local)
    (tasks : Tasks Value Error) (left : Nat) : Prop where
  frame : state.frames id = some ⟨.running code, {}⟩
  meant : Evaluates next tasks code (account.outcome id) left
  owned : ∀ {task result}, tasks task = some result → account.caller task = some id ∧
    account.outcome task = result ∧ (pending = some task ∨ Ended state task result)
  kept : ∀ {task}, account.caller task = some id → tasks task = none → state.frames task = none

/-- The stack of a thread, whose coroutines have so many instructions left together. -/
inductive Stacked (next : Local → Instruction Local Value Error) (account : Account Value Error)
    (state : State Local Value Error) : Option Nat → List Nat → Nat → Prop where
  | nil {pending : Option Nat} : Stacked next account state pending [] 0
  | cons {pending : Option Nat} {id : Nat} {rest : List Nat} {code : Local}
      {tasks : Tasks Value Error} {left work : Nat} (called : account.caller id = rest.head?)
      (active : Active next account state pending id code tasks left)
      (below : Stacked next account state (some id) rest work) :
      Stacked next account state pending (id :: rest) (left + work)

/-- All coroutines are on a stack or ended, and every thread has so many instructions to go. -/
structure Direct (next : Local → Instruction Local Value Error) (account : Account Value Error)
    (work : Nat → Nat) (state : State Local Value Error) : Prop where
  unused : ∀ {id}, state.created ≤ id → state.frames id = none ∧ account.caller id = none
  stacked : ∀ thread, Stacked next account state none (state.callStacks thread) (work thread)
  distinct : ∀ thread, (state.callStacks thread).Nodup
  apart : ∀ {thread other id}, id ∈ state.callStacks thread → id ∈ state.callStacks other →
    thread = other
  settled : ∀ {id}, state.frames id ≠ none →
    (∃ thread, id ∈ state.callStacks thread) ∨ Ended state id (account.outcome id)
  owned : ∀ {id caller}, account.caller id = some caller → state.frames id ≠ none →
    ∃ thread, caller ∈ state.callStacks thread
  idle : ∀ token, state.registrations token = none

section Elsewhere

variable {next : Local → Instruction Local Value Error} {account later : Account Value Error}
  {work : Nat → Nat} {state behind : State Local Value Error} {id : Nat}

namespace Direct

theorem lt_created (direct : Direct next account work state) {other : Nat}
    (existing : state.frames other ≠ none) : other < state.created := by
  by_contra late
  exact existing (direct.unused (by omega)).1

theorem lt_created_of_caller (direct : Direct next account work state) {other caller : Nat}
    (called : account.caller other = some caller) : other < state.created := by
  by_contra late
  have unused := (direct.unused (Nat.le_of_not_lt late)).2
  simp [unused] at called

theorem lt_created_of_running (direct : Direct next account work state) {other : Nat}
    {code : Local} {promise : Promise Value Error}
    (running : state.frames other = some ⟨.running code, promise⟩) : other < state.created :=
  direct.lt_created (by simp [running])

end Direct

theorem Active.elsewhere (direct : Direct next account work state) {pending : Option Nat}
    {other : Nat} {code : Local} {tasks : Tasks Value Error} {left : Nat}
    (active : Active next account state pending other code tasks left) (busy : Busy state id)
    (elsewhere : Elsewhere account state id later behind) (ne : other ≠ id)
    (away : account.caller other ≠ some id) :
    Active next later behind pending other code tasks left where
  frame := by
    have early := direct.lt_created_of_running active.frame
    rw [elsewhere.frames early ne away, active.frame]
  meant := by
    have early := direct.lt_created_of_running active.frame
    rw [elsewhere.outcome early away]
    exact active.meant
  owned := by
    intro task result has
    obtain ⟨called, same, status⟩ := active.owned has
    have early := direct.lt_created_of_caller called
    have other_caller : account.caller task ≠ some id := by simpa [called] using ne
    rw [elsewhere.caller early, elsewhere.outcome early other_caller]
    refine ⟨called, same, status.imp_right fun ended => ?_⟩
    refine ended.elsewhere elsewhere early ?_ other_caller
    rintro rfl
    exact busy.not_ended early ended
  kept := by
    intro task called none_left
    by_cases early : task < state.created
    · rw [elsewhere.caller early] at called
      have gone := active.kept called none_left
      have task_ne : task ≠ id := by
        rintro rfl
        obtain ⟨code, running⟩ := busy early
        simp [gone] at running
      rw [elsewhere.frames early task_ne (by simpa [called] using ne), gone]
    · rcases elsewhere.fresh (Nat.le_of_not_lt early) with own | ⟨nobody, -⟩
      · exact absurd (Option.some.inj (called.symm.trans own)) ne
      · simp [nobody] at called

/-- A step leaves the coroutines alone that are not the one of the step. -/
theorem Stacked.elsewhere (direct : Direct next account work state) {pending : Option Nat}
    {stack : List Nat} {left : Nat} (stacked : Stacked next account state pending stack left)
    (busy : Busy state id) (elsewhere : Elsewhere account state id later behind)
    (away : id ∉ stack) : Stacked next later behind pending stack left := by
  induction stacked with
  | nil => exact .nil
  | @cons _ other rest _ _ _ _ called active below ih =>
      rw [List.mem_cons, not_or] at away
      have early := direct.lt_created_of_running active.frame
      have caller_ne : account.caller other ≠ some id := by
        intro same
        exact away.2 (List.mem_of_mem_head? (called ▸ same))
      exact .cons ((elsewhere.caller early).trans called)
        (active.elsewhere direct busy elsewhere (Ne.symm away.1) caller_ne) (ih away.2)

/-- The tasks of a coroutine that waits for no callee ended. -/
theorem Active.ended_of_called {code : Local} {tasks : Tasks Value Error} {left other : Nat}
    (active : Active next account state none id code tasks left)
    (called : account.caller other = some id) (existing : state.frames other ≠ none) :
    Ended state other (account.outcome other) := by
  cases has : tasks other with
  | none => exact absurd (active.kept called has) existing
  | some result =>
      obtain ⟨-, rfl, status⟩ := active.owned has
      exact status.resolve_left (by simp)

/-- The coroutines on a stack are in their bodies. -/
theorem Stacked.running {pending : Option Nat} {stack : List Nat} {left other : Nat}
    (stacked : Stacked next account state pending stack left) (member : other ∈ stack) :
    ∃ code, state.frames other = some ⟨.running code, {}⟩ := by
  induction stacked with
  | nil => cases member
  | cons called active below ih =>
      rcases List.mem_cons.mp member with rfl | deeper
      · exact ⟨_, active.frame⟩
      · exact ih deeper

/-- The coroutines below one that ends go on. -/
theorem Stacked.settle {stack : List Nat} {left : Nat}
    (stacked : Stacked next account state (some id) stack left)
    (ended : Ended state id (account.outcome id)) :
    Stacked next account state none stack left := by
  cases stacked with
  | nil => exact .nil
  | cons called active below =>
      refine .cons called ⟨active.frame, active.meant, ?_, active.kept⟩ below
      intro task result has
      obtain ⟨own, same, status⟩ := active.owned has
      refine ⟨own, same, .inr ?_⟩
      rcases status with waiting | done
      · obtain rfl := Option.some.inj waiting
        exact same ▸ ended
      · exact done

/-- The invariant after a step, from what the step did to its own coroutine, to the tasks of that
coroutine and to the stack of its thread. -/
theorem Direct.advance (direct : Direct next account work state) {thread left : Nat}
    {stack : List Nat} (busy : Busy state id)
    (elsewhere : Elsewhere account state id later behind)
    (alone : ∀ other, id ∈ state.callStacks other → other = thread)
    (changed : behind.callStacks = Function.update state.callStacks thread stack)
    (stacked : Stacked next later behind none stack left) (distinct : stack.Nodup)
    (members : ∀ other ∈ stack, other ∈ state.callStacks thread ∨ other = state.created)
    (remaining : ∀ other ∈ state.callStacks thread, other ∈ stack ∨ other = id)
    (unused : ∀ other, behind.created ≤ other →
      behind.frames other = none ∧ later.caller other = none)
    (settled : ∀ other, later.caller other = some id ∨ other = id → behind.frames other ≠ none →
      other ∈ stack ∨ Ended behind other (later.outcome other))
    (owned : ∀ other, later.caller other = some id → behind.frames other ≠ none → id ∈ stack)
    (idle : ∀ token, behind.registrations token = none) :
    Direct next later (Function.update work thread left) behind := by
  have own : behind.callStacks thread = stack := by simp [changed]
  have others : ∀ {other}, other ≠ thread → behind.callStacks other = state.callStacks other := by
    intro other ne
    simp [changed, ne]
  have fresh_apart : ∀ {other other_thread}, other ∈ state.callStacks other_thread →
      other ≠ state.created := by
    rintro other other_thread member rfl
    obtain ⟨code, frame⟩ := (direct.stacked other_thread).running member
    simp [(direct.unused (Nat.le_refl state.created)).1] at frame
  have stays : ∀ {other other_thread}, other ∈ state.callStacks other_thread → other ≠ id →
      ∃ thread, other ∈ behind.callStacks thread := by
    intro other other_thread member ne
    by_cases same : other_thread = thread
    · subst same
      exact ⟨other_thread, own ▸ (remaining other member).resolve_right ne⟩
    · exact ⟨other_thread, (others same).symm ▸ member⟩
  constructor
  · intro other late
    exact unused other late
  · intro other
    by_cases same : other = thread
    · subst same
      rw [own, Function.update_self]
      exact stacked
    · rw [others same, Function.update_of_ne same]
      exact (direct.stacked other).elsewhere direct busy elsewhere
        fun member => same (alone other member)
  · intro other
    by_cases same : other = thread
    · subst same
      exact own ▸ distinct
    · exact others same ▸ direct.distinct other
  · intro first second other in_first in_second
    by_cases first_same : first = thread <;> by_cases second_same : second = thread
    · exact first_same.trans second_same.symm
    · rw [first_same, own] at in_first
      rw [others second_same] at in_second
      rcases members other in_first with before | new
      · exact first_same.trans (direct.apart before in_second)
      · exact absurd new (fresh_apart in_second)
    · rw [second_same, own] at in_second
      rw [others first_same] at in_first
      rcases members other in_second with before | new
      · exact (direct.apart in_first before).trans second_same.symm
      · exact absurd new (fresh_apart in_first)
    · rw [others first_same] at in_first
      rw [others second_same] at in_second
      exact direct.apart in_first in_second
  · intro other existing
    by_cases concerned : later.caller other = some id ∨ other = id
    · exact (settled other concerned existing).imp_left fun member => ⟨thread, own ▸ member⟩
    · rw [not_or] at concerned
      obtain ⟨away, ne⟩ := concerned
      have early : other < state.created := by
        by_contra late
        rcases elsewhere.fresh (Nat.le_of_not_lt late) with own_task | ⟨-, same | unused⟩
        · exact away own_task
        · exact ne same
        · exact existing unused
      rw [elsewhere.caller early] at away
      rw [elsewhere.frames early ne away] at existing
      rw [elsewhere.outcome early away]
      rcases direct.settled existing with ⟨other_thread, member⟩ | ended
      · exact .inl (stays member ne)
      · exact .inr (ended.elsewhere elsewhere early ne away)
  · intro other caller called existing
    by_cases same : caller = id
    · subst same
      exact ⟨thread, own ▸ owned other called existing⟩
    · have early : other < state.created := by
        by_contra late
        rcases elsewhere.fresh (Nat.le_of_not_lt late) with own_task | ⟨nobody, -⟩
        · exact same (Option.some.inj (called.symm.trans own_task))
        · simp [nobody] at called
      rw [elsewhere.caller early] at called
      have existed : state.frames other ≠ none := by
        by_cases other_same : other = id
        · subst other_same
          obtain ⟨code, running⟩ := busy early
          simp [running]
        · rwa [elsewhere.frames early other_same (by simpa [called] using same)] at existing
      obtain ⟨other_thread, member⟩ := direct.owned called existed
      exact stays member same
  · exact idle

/-! ## The steps of a thread -/

/-- A step of a thread. -/
structure Move (next : Local → Instruction Local Value Error) (account : Account Value Error)
    (work : Nat → Nat) (state : State Local Value Error) (thread id left : Nat)
    (later : Account Value Error) (behind : State Local Value Error) : Prop where
  direct : Direct next later (Function.update work thread left) behind
  elsewhere : Elsewhere account state id later behind
  born : ∀ {other}, state.created ≤ other → other < behind.created → later.caller other = some id
  grows : state.created ≤ behind.created
  aside : ∀ {other}, other ≠ thread → behind.callStacks other = state.callStacks other
  remaining : ∀ {other}, other ∈ state.callStacks thread → other ∈ behind.callStacks thread ∨
    Ended behind other (later.outcome other)

section Top

variable {thread left below_left : Nat} {rest : List Nat} {code : Local}
  {tasks : Tasks Value Error}

/-- A body ends. -/
theorem Direct.finish (direct : Direct next account work state)
    (stack : state.callStacks thread = id :: rest) (called : account.caller id = rest.head?)
    (active : Active next account state none id code tasks left)
    (below : Stacked next account state (some id) rest below_left)
    (released : ∀ task, tasks task = none) {promise : Promise Value Error}
    (done : promise.done = true) (held : awaitResume promise = some (account.outcome id))
    (frames : behind.frames = Function.update state.frames id (some ⟨.atFinal, promise⟩))
    (created : behind.created = state.created)
    (changed : behind.callStacks = Function.update state.callStacks thread rest)
    (idle : behind.registrations = state.registrations) :
    Move next account work state thread id below_left account behind := by
  have distinct := direct.distinct thread
  rw [stack, List.nodup_cons] at distinct
  have member : id ∈ state.callStacks thread := by simp [stack]
  have busy : Busy state id := fun _ => ⟨code, active.frame⟩
  have early := direct.lt_created_of_running active.frame
  have ended : Ended behind id (account.outcome id) :=
    ⟨promise, by simp [frames], done, held⟩
  have frames_of : ∀ {other}, other ≠ id → behind.frames other = state.frames other := by
    intro other ne
    simp [frames, ne]
  have elsewhere : Elsewhere account state id account behind := by
    refine ⟨fun _ ne _ => frames_of ne, fun _ => rfl, fun _ _ => rfl, ?_⟩
    intro other late
    obtain ⟨unused, nobody⟩ := direct.unused late
    exact .inr ⟨nobody, .inr (by rwa [frames_of (by omega)])⟩
  have gone : ∀ {other}, account.caller other = some id → behind.frames other = none := by
    intro other called_by_id
    rw [frames_of (ne_of_called called distinct.1 called_by_id)]
    exact active.kept called_by_id (released other)
  refine ⟨?_, elsewhere, by omega, Nat.le_of_eq created.symm, ?_, ?_⟩
  · refine direct.advance busy elsewhere (fun other inside => direct.apart inside member) changed
      ((below.elsewhere direct busy elsewhere distinct.1).settle ended) distinct.2
      (fun other inside => .inl (by simp [stack, inside])) ?_ ?_ ?_ ?_ (idle ▸ direct.idle)
    · intro other inside
      rw [stack] at inside
      exact (List.mem_cons.mp inside).symm
    · intro other late
      obtain ⟨unused, nobody⟩ := direct.unused (created ▸ late)
      exact ⟨by rwa [frames_of (by omega)], nobody⟩
    · rintro other (called_by_id | rfl) existing
      · exact absurd (gone called_by_id) existing
      · exact .inr ended
    · intro other called_by_id existing
      exact absurd (gone called_by_id) existing
  · intro other ne
    simp [changed, ne]
  · intro other inside
    rw [stack] at inside
    rcases List.mem_cons.mp inside with rfl | deeper
    · exact .inr ended
    · exact .inl (by simpa [changed] using deeper)

/-- A body goes on, and one of its tasks is destroyed or holds something else. -/
theorem Direct.goOn (direct : Direct next account work state)
    (stack : state.callStacks thread = id :: rest) (called : account.caller id = rest.head?)
    (active : Active next account state none id code tasks left)
    (below : Stacked next account state (some id) rest below_left) {task : Nat}
    {result : Except Error Value} (owned : tasks task = some result) {resumed : Local}
    {kept : Option (Except Error Value)} {remaining : Nat}
    (meant : Evaluates next (Function.update tasks task kept) resumed (account.outcome id)
      remaining) {frame : Option (Frame Local Value Error)} (keeps : Keeps frame kept)
    (frames : behind.frames = Function.update (Function.update state.frames task frame) id
      (some ⟨.running resumed, {}⟩))
    (created : behind.created = state.created) (changed : behind.callStacks = state.callStacks)
    (idle : ∀ token, behind.registrations token = none) :
    Move next account work state thread id (remaining + below_left) (account.keep task kept)
      behind := by
  generalize later_eq : account.keep task kept = later
  have distinct := direct.distinct thread
  rw [stack, List.nodup_cons] at distinct
  have member : id ∈ state.callStacks thread := by simp [stack]
  have busy : Busy state id := fun _ => ⟨code, active.frame⟩
  have early := direct.lt_created_of_running active.frame
  have task_caller := (active.owned owned).1
  have task_ne : id ≠ task := (ne_of_called called distinct.1 task_caller).symm
  have own_frame : behind.frames id = some ⟨.running resumed, {}⟩ := by simp [frames]
  have task_frame : behind.frames task = frame := by simp [frames, task_ne.symm]
  have frames_of : ∀ {other}, other ≠ id → other ≠ task →
      behind.frames other = state.frames other := by
    intro other ne away
    simp [frames, ne, away]
  have caller : later.caller = account.caller := by simp [← later_eq, Account.keep]
  have outcome_of : ∀ {other}, other ≠ task → later.outcome other = account.outcome other := by
    intro other away
    simp [← later_eq, Account.keep, away]
  have elsewhere : Elsewhere account state id later behind := by
    refine ⟨fun _ ne away => frames_of ne fun same => away (same ▸ task_caller),
      fun _ => by rw [caller], fun _ away => outcome_of fun same => away (same ▸ task_caller), ?_⟩
    intro other late
    obtain ⟨unused, nobody⟩ := direct.unused late
    have away : other ≠ task := by
      rintro rfl
      simp [nobody] at task_caller
    exact .inr ⟨caller ▸ nobody, .inr ((frames_of (by omega) away).trans unused)⟩
  have own : Active next later behind none id resumed (Function.update tasks task kept)
      remaining := by
    refine ⟨own_frame, (outcome_of task_ne).symm ▸ meant, ?_, ?_⟩
    · intro other held has
      rw [caller]
      by_cases same : other = task
      · subst same
        obtain rfl : kept = some held := by simpa using has
        cases keeps with
        | holds done held_eq =>
            exact ⟨task_caller, by simp [← later_eq, Account.keep],
              .inr ⟨_, task_frame, done, held_eq⟩⟩
      · obtain ⟨other_caller, holds, status⟩ := active.owned (by simpa [same] using has)
        have ended := status.resolve_left (by simp)
        have ne := ended.ne_of_running active.frame
        obtain ⟨promise, frame_eq, done, held_eq⟩ := ended
        exact ⟨other_caller, (outcome_of same).trans holds,
          .inr ⟨promise, (frames_of ne same).trans frame_eq, done, held_eq⟩⟩
    · intro other called_by_id none_left
      rw [caller] at called_by_id
      by_cases same : other = task
      · subst same
        obtain rfl : kept = none := by simpa using none_left
        cases keeps
        exact task_frame
      · rw [frames_of (ne_of_called called distinct.1 called_by_id) same]
        exact active.kept called_by_id (by simpa [same] using none_left)
  have unchanged : Function.update state.callStacks thread (id :: rest) = state.callStacks := by
    rw [← stack, Function.update_eq_self]
  refine ⟨?_, elsewhere, by omega, Nat.le_of_eq created.symm, fun _ => by rw [changed], ?_⟩
  · refine direct.advance busy elsewhere (fun other inside => direct.apart inside member)
      (changed.trans unchanged.symm)
      (.cons (caller ▸ called) own (below.elsewhere direct busy elsewhere distinct.1))
      (stack ▸ direct.distinct thread) (fun other inside => .inl (by rwa [stack]))
      (fun other inside => .inl (by rwa [stack] at inside)) ?_ ?_ ?_ idle
    · intro other late
      obtain ⟨unused, nobody⟩ := direct.unused (created ▸ late)
      have away : other ≠ task := by
        rintro rfl
        simp [nobody] at task_caller
      exact ⟨(frames_of (by omega) away).trans unused, caller ▸ nobody⟩
    · rintro other (called_by_id | rfl) existing
      · exact .inr (own.ended_of_called called_by_id existing)
      · exact .inl List.mem_cons_self
    · intro other _ _
      exact List.mem_cons_self
  · intro other inside
    exact .inl (by rwa [changed])

/-- A body calls a coroutine, which runs on top of it. -/
theorem Direct.enter (direct : Direct next account work state)
    (stack : state.callStacks thread = id :: rest) (called : account.caller id = rest.head?)
    (active : Active next account state none id code tasks left)
    (below : Stacked next account state (some id) rest below_left) {body resumed : Local}
    {result : Except Error Value} {callee remaining : Nat}
    (meant : Evaluates next (fun _ => none) body result callee)
    (rest_meant : Evaluates next (Function.update tasks state.created (some result)) resumed
      (account.outcome id) remaining) :
    Move next account work state thread id (callee + (remaining + below_left))
      { caller := Function.update account.caller state.created (some id)
        outcome := Function.update account.outcome state.created result }
      (((state.create body).setFrame id ⟨.running resumed, {}⟩).setStack thread
        (state.created :: id :: rest)) := by
  generalize behind_eq : ((state.create body).setFrame id ⟨.running resumed, {}⟩).setStack thread
    (state.created :: id :: rest) = behind
  generalize later_eq : ({
    caller := Function.update account.caller state.created (some id)
    outcome := Function.update account.outcome state.created result } :
      Account Value Error) = later
  have distinct := direct.distinct thread
  rw [stack] at distinct
  have member : id ∈ state.callStacks thread := by simp [stack]
  have busy : Busy state id := fun _ => ⟨code, active.frame⟩
  have early := direct.lt_created_of_running active.frame
  have created : behind.created = state.created + 1 := by
    simp [← behind_eq, State.setStack, State.setFrame, State.create]
  have changed : behind.callStacks =
      Function.update state.callStacks thread (state.created :: id :: rest) := by
    simp [← behind_eq, State.setStack, State.setFrame, State.create]
  have idle : behind.registrations = state.registrations := by
    simp [← behind_eq, State.setStack, State.setFrame, State.create]
  have own_frame : behind.frames id = some ⟨.running resumed, {}⟩ := by
    simp [← behind_eq, State.setStack, State.setFrame]
  have new_frame : behind.frames state.created = some ⟨.running body, {}⟩ := by
    simp [← behind_eq, State.setStack, State.setFrame, State.create, show state.created ≠ id by
      omega]
  have frames_of : ∀ {other}, other ≠ id → other ≠ state.created →
      behind.frames other = state.frames other := by
    intro other ne old
    simp [← behind_eq, State.setStack, State.setFrame, State.create, ne, old]
  have caller_of : ∀ {other}, other ≠ state.created →
      later.caller other = account.caller other := by
    intro other ne
    simp [← later_eq, ne]
  have outcome_of : ∀ {other}, other ≠ state.created →
      later.outcome other = account.outcome other := by
    intro other ne
    simp [← later_eq, ne]
  have new_caller : later.caller state.created = some id := by simp [← later_eq]
  have new_outcome : later.outcome state.created = result := by simp [← later_eq]
  obtain ⟨new_unused, new_nobody⟩ := direct.unused (Nat.le_refl state.created)
  have elsewhere : Elsewhere account state id later behind := by
    refine ⟨fun earlier ne _ => frames_of ne (by omega), fun earlier => caller_of (by omega),
      fun earlier _ => outcome_of (by omega), ?_⟩
    intro other late
    by_cases new : other = state.created
    · exact .inl (new ▸ new_caller)
    · obtain ⟨unused, nobody⟩ := direct.unused late
      exact .inr ⟨(caller_of new).trans nobody,
        .inr ((frames_of (by omega) new).trans unused)⟩
  have callee_active : Active next later behind none state.created body (fun _ => none) callee := by
    refine ⟨new_frame, new_outcome ▸ meant, by simp, ?_⟩
    intro other called_by_new _
    by_cases new : other = state.created
    · have same := Option.some.inj (new_caller.symm.trans (new ▸ called_by_new))
      omega
    · rw [caller_of new] at called_by_new
      by_contra existing
      have other_ne : other ≠ id := by
        rintro rfl
        have inside := List.mem_of_mem_head? (called ▸ called_by_new)
        obtain ⟨inner, frame⟩ := below.running inside
        simp [new_unused] at frame
      rw [frames_of other_ne new] at existing
      obtain ⟨other_thread, inside⟩ := direct.owned called_by_new existing
      obtain ⟨inner, frame⟩ := (direct.stacked other_thread).running inside
      simp [new_unused] at frame
  have own : Active next later behind (some state.created) id resumed
      (Function.update tasks state.created (some result)) remaining := by
    have id_old : id ≠ state.created := by omega
    refine ⟨own_frame, (outcome_of id_old).symm ▸ rest_meant, ?_, ?_⟩
    · intro other ended_with has
      by_cases new : other = state.created
      · subst new
        obtain rfl : result = ended_with := by simpa using has
        exact ⟨new_caller, new_outcome, .inl rfl⟩
      · obtain ⟨caller, same, status⟩ := active.owned (by simpa [new] using has)
        have ended := status.resolve_left (by simp)
        have ne := ended.ne_of_running active.frame
        obtain ⟨promise, frame, done, held⟩ := ended
        exact ⟨(caller_of new).trans caller, (outcome_of new).trans same,
          .inr ⟨promise, (frames_of ne new).trans frame, done, held⟩⟩
    · intro other called_by_id none_left
      have new : other ≠ state.created := by
        rintro rfl
        simp at none_left
      rw [caller_of new] at called_by_id
      rw [frames_of (ne_of_called called (List.nodup_cons.mp distinct).1 called_by_id) new]
      exact active.kept called_by_id (by simpa [new] using none_left)
  have new_apart : state.created ∉ id :: rest := by
    intro inside
    obtain ⟨inner, frame⟩ := (direct.stacked thread).running (stack ▸ inside)
    simp [new_unused] at frame
  refine ⟨?_, elsewhere, ?_, by omega, fun ne => by simp [changed, ne], ?_⟩
  · refine direct.advance busy elsewhere (fun other inside => direct.apart inside member) changed
      (.cons new_caller callee_active (.cons ((caller_of (by omega)).trans called) own
        (below.elsewhere direct busy elsewhere (List.nodup_cons.mp distinct).1)))
      (List.nodup_cons.mpr ⟨new_apart, distinct⟩) ?_ ?_ ?_ ?_ ?_ (idle ▸ direct.idle)
    · intro other inside
      rw [stack]
      exact (List.mem_cons.mp inside).symm
    · intro other inside
      rw [stack] at inside
      exact .inl (List.mem_cons_of_mem _ inside)
    · intro other late
      obtain ⟨unused, nobody⟩ := direct.unused (show state.created ≤ other by omega)
      exact ⟨(frames_of (by omega) (by omega)).trans unused, (caller_of (by omega)).trans nobody⟩
    · rintro other (called_by_id | rfl) existing
      · by_cases new : other = state.created
        · exact .inl (by simp [new])
        · have called_before := (caller_of new).symm.trans called_by_id
          have ne := ne_of_called called (List.nodup_cons.mp distinct).1 called_before
          rw [frames_of ne new] at existing
          obtain ⟨promise, frame, done, held⟩ := active.ended_of_called called_before existing
          exact .inr ⟨promise, (frames_of ne new).trans frame, done,
            (outcome_of new).symm ▸ held⟩
      · exact .inl (by simp)
    · intro other _ _
      simp
  · intro other late earlier
    obtain rfl : other = state.created := by omega
    exact new_caller
  · intro other inside
    rw [stack] at inside
    exact .inl (by simpa [changed] using .inr (List.mem_cons.mp inside))

/-- A thread with a coroutine on its stack goes on, without undefined behaviour, and has one
instruction less to go. -/
theorem Direct.run (direct : Direct next account work state)
    (stack : state.callStacks thread = id :: rest) :
    ∃ behind later left, step next state (.run thread) = some (.ok behind) ∧
      work thread = left + 1 ∧ Move next account work state thread id left later behind := by
  have stacked := direct.stacked thread
  rw [stack] at stacked
  generalize work thread = total at stacked ⊢
  cases stacked with
  | @cons _ _ _ code tasks _ below_left called active below =>
      have meant := active.meant
      generalize outcome_eq : account.outcome id = outcome at meant
      cases meant with
      | @coReturn _ _ value reached released =>
          let promise : Promise Value Error := { value := some value, done := true }
          have stepped : step next state (.run thread) =
              some (.ok ((state.setFrame id ⟨.atFinal, promise⟩).setStack thread rest)) := by
            simp only [step, stack, active.frame, execute, reached, finalSuspend, promise]
          have held : awaitResume promise = some (account.outcome id) := by
            rw [outcome_eq]
            rfl
          exact ⟨_, account, below_left, stepped, Nat.add_comm .., direct.finish stack called
            active below released rfl held rfl rfl rfl rfl⟩
      | @throwOut _ _ error reached released =>
          let promise : Promise Value Error := { exception := some error, done := true }
          have stepped : step next state (.run thread) =
              some (.ok ((state.setFrame id ⟨.atFinal, promise⟩).setStack thread rest)) := by
            simp only [step, stack, active.frame, execute, reached, finalSuspend, promise]
          have held : awaitResume promise = some (account.outcome id) := by
            rw [outcome_eq]
            rfl
          exact ⟨_, account, below_left, stepped, Nat.add_comm .., direct.finish stack called
            active below released rfl held rfl rfl rfl rfl⟩
      | call reached meant resumed =>
          have unowned : tasks state.created = none := by
            cases has : tasks state.created with
            | none => rfl
            | some held =>
                have owner := (active.owned has).1
                simp [(direct.unused (Nat.le_refl state.created)).2] at owner
          refine ⟨_, _, _, ?_, ?_, direct.enter stack called active below meant
            (outcome_eq ▸ resumed state.created unowned)⟩
          · simp only [step, stack, active.frame, execute, reached]
          · omega
      | @coAwait _ _ task rvalue resume result _ _ reached owned resumed =>
          obtain ⟨promise, frame, done, held⟩ := (active.owned owned).2.2.resolve_left (by simp)
          cases rvalue with
          | true =>
              refine ⟨_, _, _, ?_, ?_, direct.goOn stack called active below owned
                (outcome_eq ▸ resumed) .destroyed (frames_setFrame_destroy ..)
                (created_destroy ..) (callStacks_destroy ..)
                (registrations_destroy direct.idle task)⟩
              · simp [step, stack, active.frame, execute, reached, frame, done, finishAwait, held]
              · omega
          | false =>
              have left_done : promise.moveOut.done = true := (done_moveOut promise).trans done
              have left_held := (awaitResume_moveOut promise).trans (congrArg _ held)
              have stepped : step next state (.run thread) =
                  some (.ok ((state.setFrame task ⟨.atFinal, promise.moveOut⟩).setFrame id
                    ⟨.running (resume result), {}⟩)) := by
                simp [step, stack, active.frame, execute, reached, frame, done, finishAwait, held]
              refine ⟨_, _, _, stepped, ?_, direct.goOn stack called active below owned
                (outcome_eq ▸ resumed) (.holds left_done left_held) rfl rfl rfl direct.idle⟩
              omega
      | discard reached owned resumed =>
          obtain ⟨promise, frame, done, held⟩ := (active.owned owned).2.2.resolve_left (by simp)
          refine ⟨_, _, _, ?_, ?_, direct.goOn stack called active below owned
            (outcome_eq ▸ resumed) .destroyed (frames_setFrame_destroy ..) (created_destroy ..)
            (callStacks_destroy ..) (registrations_destroy direct.idle _)⟩
          · simp [step, stack, active.frame, execute, reached, frame]
          · omega

/-- Code outside of coroutines calls one. -/
theorem Direct.start (direct : Direct next account work state)
    (free : state.callStacks thread = []) {body : Local} {result : Except Error Value}
    {moves : Nat} (meant : Evaluates next (fun _ => none) body result moves) :
    Direct next { account with outcome := Function.update account.outcome state.created result }
        (Function.update work thread moves) ((state.create body).setStack thread [state.created]) ∧
      Elsewhere account state state.created
        { account with outcome := Function.update account.outcome state.created result }
        ((state.create body).setStack thread [state.created]) := by
  generalize behind_eq : (state.create body).setStack thread [state.created] = behind
  generalize later_eq : ({ account with
    outcome := Function.update account.outcome state.created result } :
      Account Value Error) = later
  obtain ⟨new_unused, new_nobody⟩ := direct.unused (Nat.le_refl state.created)
  have created : behind.created = state.created + 1 := by
    simp [← behind_eq, State.setStack, State.setFrame, State.create]
  have changed : behind.callStacks =
      Function.update state.callStacks thread [state.created] := by
    simp [← behind_eq, State.setStack, State.setFrame, State.create]
  have idle : behind.registrations = state.registrations := by
    simp [← behind_eq, State.setStack, State.setFrame, State.create]
  have frames : behind.frames =
      Function.update state.frames state.created (some ⟨.running body, {}⟩) := by
    simp [← behind_eq, State.setStack, State.setFrame, State.create]
  have frames_of : ∀ {other}, other ≠ state.created →
      behind.frames other = state.frames other := by
    intro other ne
    simp [frames, ne]
  have caller : later.caller = account.caller := by simp [← later_eq]
  have new_outcome : later.outcome state.created = result := by simp [← later_eq]
  have callers_run : ∀ {other}, account.caller other = some state.created →
      state.frames other = none := by
    intro other called
    by_contra existing
    obtain ⟨other_thread, inside⟩ := direct.owned called existing
    obtain ⟨inner, frame⟩ := (direct.stacked other_thread).running inside
    simp [new_unused] at frame
  have busy : Busy state state.created := fun early => absurd early (Nat.lt_irrefl _)
  have elsewhere : Elsewhere account state state.created later behind := by
    refine ⟨fun _ ne _ => frames_of ne, fun _ => by rw [caller], ?_, ?_⟩
    · intro other early _
      simp [← later_eq, Nat.ne_of_lt early]
    · intro other late
      obtain ⟨unused, nobody⟩ := direct.unused late
      rw [caller]
      refine .inr ⟨nobody, ?_⟩
      by_cases new : other = state.created
      · exact .inl new
      · exact .inr ((frames_of new).trans unused)
  have gone : ∀ {other}, later.caller other = some state.created →
      behind.frames other = none := by
    intro other called
    rw [caller] at called
    have ne : other ≠ state.created := by
      rintro rfl
      simp [new_nobody] at called
    rw [frames_of ne]
    exact callers_run called
  refine ⟨?_, elsewhere⟩
  refine direct.advance busy elsewhere ?_ changed ?_ (by simp) ?_ ?_ ?_ ?_ ?_
    (idle ▸ direct.idle)
  · intro other inside
    obtain ⟨inner, frame⟩ := (direct.stacked other).running inside
    simp [new_unused] at frame
  · have active : Active next later behind none state.created body (fun _ => none) moves :=
      ⟨by simp [frames], new_outcome ▸ meant, by simp, fun called _ => gone called⟩
    exact .cons (caller ▸ new_nobody) active .nil
  · intro other inside
    exact .inr (List.mem_singleton.mp inside)
  · intro other inside
    simp [free] at inside
  · intro other late
    obtain ⟨unused, nobody⟩ := direct.unused (show state.created ≤ other by omega)
    exact ⟨(frames_of (by omega)).trans unused, caller ▸ nobody⟩
  · rintro other (called | rfl) existing
    · exact absurd (gone called) existing
    · exact .inl (by simp)
  · intro other called existing
    exact absurd (gone called) existing

end Top

end Elsewhere

theorem direct_initial (next : Local → Instruction Local Value Error)
    (outcome : Nat → Except Error Value) :
    Direct next ⟨fun _ => none, outcome⟩ (fun _ => 0) ({} : State Local Value Error) where
  unused := by simp
  stacked := fun _ => .nil
  distinct := by simp
  apart := by simp
  settled := by simp
  owned := by simp
  idle := by simp

/-! ## Whole runs -/

/-- What happened, the latest first, with the number of coroutines that there were before. -/
abbrev Trace (Local : Type) : Type := List (Action Local × Nat)

/-- The runs from the start, in any order of the threads. -/
inductive Performed (next : Local → Instruction Local Value Error) :
    Trace Local → State Local Value Error → Prop where
  | initial : Performed next [] {}
  | step {trace : Trace Local} {state behind : State Local Value Error} (action : Action Local)
      (before : Performed next trace state)
      (moved : step next state action = some (.ok behind)) :
      Performed next ((action, state.created) :: trace) behind

/-- How often a thread went on. -/
def moves (thread : Nat) : Trace Local → Nat
  | [] => 0
  | (.run other, _) :: trace => (if other = thread then 1 else 0) + moves thread trace
  | _ :: trace => moves thread trace

/-- The instructions of everything that code outside of coroutines called on a thread. -/
def instructions (cost : Local → Nat) (thread : Nat) : Trace Local → Nat
  | [] => 0
  | (.call other body, _) :: trace =>
      (if other = thread then cost body else 0) + instructions cost thread trace
  | _ :: trace => instructions cost thread trace

theorem instructions_mono {cost bound : Local → Nat} (le : ∀ body, cost body ≤ bound body)
    (thread : Nat) (trace : Trace Local) :
    instructions cost thread trace ≤ instructions bound thread trace := by
  induction trace with
  | nil => exact Nat.le_refl 0
  | cons entry trace ih =>
      obtain ⟨action, created⟩ := entry
      cases action with
      | call other body =>
          simp only [instructions]
          split_ifs
          · exact Nat.add_le_add (le body) ih
          · exact Nat.add_le_add_left ih 0
      | run other => exact ih
      | resumeReady token timedOut => exact ih

section Runs

variable {next : Local → Instruction Local Value Error} {outcome : Local → Except Error Value}
  {cost : Local → Nat} {account : Account Value Error} {work : Nat → Nat}
  {trace : Trace Local} {state behind : State Local Value Error}

/-- Everything that code outside of coroutines called means something as a plain function. -/
def Plain (next : Local → Instruction Local Value Error) (outcome : Local → Except Error Value)
    (cost : Local → Nat) (trace : Trace Local) : Prop :=
  ∀ thread body task, (.call thread body, task) ∈ trace →
    Evaluates next (fun _ => none) body (outcome body) (cost body)

/-- What a trace says about the state behind it. -/
structure Accounted (next : Local → Instruction Local Value Error)
    (outcome : Local → Except Error Value) (cost : Local → Nat) (trace : Trace Local)
    (account : Account Value Error) (work : Nat → Nat) (state : State Local Value Error) :
    Prop where
  direct : Direct next account work state
  early : ∀ {thread body task}, (.call thread body, task) ∈ trace →
    task < state.created ∧ account.caller task = none ∧ account.outcome task = outcome body
  answered : ∀ {thread body task}, (.call thread body, task) ∈ trace →
    task ∈ state.callStacks thread ∨ Ended state task (account.outcome task)
  known : ∀ {task}, task < state.created → account.caller task = none →
    ∃ thread body, (.call thread body, task) ∈ trace
  balance : ∀ thread, moves thread trace + work thread = instructions cost thread trace

/-- A thread goes on. -/
theorem Accounted.run (accounted : Accounted next outcome cost trace account work state)
    {thread : Nat} (moved : step next state (.run thread) = some (.ok behind)) :
    ∃ later left, Accounted next outcome cost ((.run thread, state.created) :: trace) later left
      behind := by
  cases stack : state.callStacks thread with
  | nil => simp [step, stack] at moved
  | cons id rest =>
      obtain ⟨reached, later, left, same, work_eq, move⟩ := accounted.direct.run stack
      obtain rfl : reached = behind := by simpa [moved] using same.symm
      obtain ⟨code, running⟩ :=
        (accounted.direct.stacked thread).running (stack ▸ List.mem_cons_self)
      have id_early := accounted.direct.lt_created_of_running running
      refine ⟨later, _, move.direct, ?_, ?_, ?_, ?_⟩
      · intro other body task member
        obtain ⟨early, nobody, ends⟩ := accounted.early (by simpa using member)
        have grows := move.grows
        exact ⟨by omega, (move.elsewhere.caller early).trans nobody,
          (move.elsewhere.outcome early (by simp [nobody])).trans ends⟩
      · intro other body task member
        have before := accounted.answered (by simpa using member)
        obtain ⟨early, nobody, -⟩ := accounted.early (by simpa using member)
        rcases before with inside | ended
        · by_cases same_thread : other = thread
          · subst same_thread
            exact move.remaining inside
          · exact .inl (by rwa [move.aside same_thread])
        · have task_ne : task ≠ id := by
            rintro rfl
            obtain ⟨promise, frame, -, -⟩ := ended
            simp [running] at frame
          rw [move.elsewhere.outcome early (by simp [nobody])]
          exact .inr (ended.elsewhere move.elsewhere early task_ne (by simp [nobody]))
      · intro task early nobody
        by_cases old : task < state.created
        · rw [move.elsewhere.caller old] at nobody
          obtain ⟨other, body, member⟩ := accounted.known old nobody
          exact ⟨other, body, List.mem_cons_of_mem _ member⟩
        · simp [move.born (Nat.le_of_not_lt old) early] at nobody
      · intro other
        have balance := accounted.balance other
        by_cases same_thread : other = thread
        · subst same_thread
          simp only [moves, instructions, if_true, Function.update_self]
          omega
        · simpa [moves, instructions, Function.update_of_ne same_thread, Ne.symm same_thread]
            using balance

/-- Code outside of coroutines calls one. -/
theorem Accounted.call (accounted : Accounted next outcome cost trace account work state)
    {thread : Nat} {body : Local}
    (meant : Evaluates next (fun _ => none) body (outcome body) (cost body))
    (moved : step next state (.call thread body) = some (.ok behind)) :
    ∃ later left, Accounted next outcome cost ((.call thread body, state.created) :: trace) later
      left behind := by
  simp only [step] at moved
  split_ifs at moved with busy
  rw [not_or, not_not] at busy
  obtain rfl := Except.ok.inj (Option.some.inj moved)
  obtain ⟨direct, elsewhere⟩ := accounted.direct.start busy.2 meant
  have nobody := (accounted.direct.unused (Nat.le_refl state.created)).2
  refine ⟨_, _, direct, ?_, ?_, ?_, ?_⟩
  · intro other called task member
    rcases List.mem_cons.mp member with same | before
    · obtain ⟨⟨rfl, rfl⟩, rfl⟩ : (other = thread ∧ called = body) ∧ task = state.created := by
        simpa using same
      exact ⟨Nat.lt_succ_self _, nobody, by simp⟩
    · obtain ⟨early, orphan, ends⟩ := accounted.early before
      exact ⟨Nat.lt_succ_of_lt early, orphan,
        (elsewhere.outcome early (by simp [orphan])).trans ends⟩
  · intro other called task member
    rcases List.mem_cons.mp member with same | before
    · obtain ⟨⟨rfl, rfl⟩, rfl⟩ : (other = thread ∧ called = body) ∧ task = state.created := by
        simpa using same
      exact .inl (by simp [State.setStack])
    · obtain ⟨early, orphan, -⟩ := accounted.early before
      rcases accounted.answered before with inside | ended
      · have ne : other ≠ thread := by
          rintro rfl
          simp [busy.2] at inside
        exact .inl (by simpa [State.setStack, State.create, State.setFrame, ne] using inside)
      · rw [elsewhere.outcome early (by simp [orphan])]
        exact .inr (ended.elsewhere elsewhere early (Nat.ne_of_lt early) (by simp [orphan]))
  · intro task early orphan
    by_cases old : task < state.created
    · obtain ⟨other, called, member⟩ := accounted.known old orphan
      exact ⟨other, called, List.mem_cons_of_mem _ member⟩
    · have new : task = state.created := Nat.eq_of_lt_succ_of_not_lt early old
      exact ⟨thread, body, by simp [new]⟩
  · intro other
    have balance := accounted.balance other
    by_cases same : other = thread
    · subst same
      have finished : work other = 0 := by
        have stacked := accounted.direct.stacked other
        rw [busy.2] at stacked
        generalize work other = left at stacked ⊢
        cases stacked
        rfl
      simp only [moves, instructions, if_true, Function.update_self]
      omega
    · simpa [moves, instructions, Function.update_of_ne same, Ne.symm same] using balance

theorem accounted_of_performed (performed : Performed next trace state)
    (plain : Plain next outcome cost trace) (unknown : Except Error Value) :
    ∃ account work, Accounted next outcome cost trace account work state := by
  induction performed with
  | initial =>
      exact ⟨⟨fun _ => none, fun _ => unknown⟩, fun _ => 0, direct_initial next _, by simp, by simp,
        by simp, by simp [moves, instructions]⟩
  | step action before moved ih =>
      obtain ⟨account, work, accounted⟩ :=
        ih fun thread body task member => plain thread body task (List.mem_cons_of_mem _ member)
      cases action with
      | call thread body =>
          exact accounted.call (plain thread body _ List.mem_cons_self) moved
      | run thread => exact accounted.run moved
      | resumeReady token timedOut => simp [step, accounted.direct.idle] at moved

/-- A run begins with a call. -/
theorem Performed.nil_or_called (performed : Performed next trace state) :
    trace = [] ∧ state = {} ∨ ∃ thread body task, (.call thread body, task) ∈ trace := by
  induction performed with
  | initial => exact .inl ⟨rfl, rfl⟩
  | step action before moved ih =>
      rcases ih with ⟨rfl, rfl⟩ | ⟨thread, body, task, member⟩
      · cases action with
        | call thread body => exact .inr ⟨thread, body, _, List.mem_cons_self⟩
        | run thread => cases moved
        | resumeReady token timedOut => cases moved
      · exact .inr ⟨thread, body, task, List.mem_cons_of_mem _ member⟩

/-- A thread with nothing to go has an empty stack. -/
theorem Direct.work_eq_zero_iff (direct : Direct next account work state) (thread : Nat) :
    work thread = 0 ↔ state.callStacks thread = [] := by
  have stacked := direct.stacked thread
  generalize work thread = left at stacked ⊢
  generalize state.callStacks thread = stack at stacked ⊢
  cases stacked with
  | nil => simp
  | cons called active below =>
      have pos := active.meant.pos
      simp
      omega

theorem step_call_ne_error (thread : Nat) (body : Local) (fault : Fault) :
    step next state (.call thread body) ≠ some (.error fault) := by
  intro faulty
  simp only [step] at faulty
  split_ifs at faulty
  cases faulty

theorem Direct.no_fault (direct : Direct next account work state) (action : Action Local)
    (fault : Fault) : step next state action ≠ some (.error fault) := by
  intro faulty
  cases action with
  | call thread body => exact step_call_ne_error thread body fault faulty
  | run thread =>
      cases stack : state.callStacks thread with
      | nil => simp [step, stack] at faulty
      | cons id rest =>
          obtain ⟨behind, later, left, moved, -⟩ := direct.run stack
          simp [moved] at faulty
  | resumeReady token timedOut => simp [step, direct.idle] at faulty

/-- Nothing happened yet, or what happened accounts for the state. -/
theorem initial_or_accounted (performed : Performed next trace state)
    (plain : Plain next outcome cost trace) : trace = [] ∧ state = {} ∨
      ∃ account work, Accounted next outcome cost trace account work state := by
  rcases performed.nil_or_called with initial | ⟨thread, body, task, member⟩
  · exact .inl initial
  · exact .inr (accounted_of_performed performed plain (outcome body))

theorem no_fault_of_performed (performed : Performed next trace state)
    (plain : Plain next outcome cost trace) (action : Action Local) (fault : Fault) :
    step next state action ≠ some (.error fault) := by
  rcases initial_or_accounted performed plain with ⟨rfl, rfl⟩ | ⟨account, work, accounted⟩
  · intro faulty
    cases action with
    | call thread body => exact step_call_ne_error thread body fault faulty
    | run thread => cases faulty
    | resumeReady token timedOut => cases faulty
  · exact accounted.direct.no_fault action fault

theorem goesOn_of_performed (performed : Performed next trace state)
    (plain : Plain next outcome cost trace) {thread : Nat}
    (busy : state.callStacks thread ≠ []) :
    ∃ behind, step next state (.run thread) = some (.ok behind) := by
  rcases initial_or_accounted performed plain with ⟨rfl, rfl⟩ | ⟨account, work, accounted⟩
  · exact absurd rfl busy
  · obtain ⟨id, rest, stack⟩ := List.exists_cons_of_ne_nil busy
    obtain ⟨behind, later, left, moved, -⟩ := accounted.direct.run stack
    exact ⟨behind, moved⟩

theorem moves_of_performed (performed : Performed next trace state)
    (plain : Plain next outcome cost trace) (thread : Nat) :
    moves thread trace ≤ instructions cost thread trace ∧
      (moves thread trace = instructions cost thread trace ↔ state.callStacks thread = []) := by
  rcases initial_or_accounted performed plain with ⟨rfl, rfl⟩ | ⟨account, work, accounted⟩
  · simp [moves, instructions]
  · have balance := accounted.balance thread
    rw [← accounted.direct.work_eq_zero_iff thread]
    omega

theorem answered_of_performed (performed : Performed next trace state)
    (plain : Plain next outcome cost trace) {thread task : Nat} {body : Local}
    (called : (.call thread body, task) ∈ trace) :
    task ∈ state.callStacks thread ∨ get state task = some (outcome body) := by
  obtain ⟨account, work, accounted⟩ :=
    accounted_of_performed performed plain (outcome body)
  obtain ⟨-, -, ends⟩ := accounted.early called
  exact (accounted.answered called).imp_right fun ended => ends ▸ ended.get

theorem frames_of_performed (performed : Performed next trace state)
    (plain : Plain next outcome cost trace) (quiet : ∀ thread, state.callStacks thread = [])
    (task : Nat) :
    state.frames task ≠ none ↔ ∃ thread body, (.call thread body, task) ∈ trace := by
  rcases initial_or_accounted performed plain with ⟨rfl, rfl⟩ | ⟨account, work, accounted⟩
  · simp
  constructor
  · intro existing
    have early := accounted.direct.lt_created existing
    cases called : account.caller task with
    | none => exact accounted.known early called
    | some caller =>
        obtain ⟨thread, inside⟩ := accounted.direct.owned called existing
        simp [quiet] at inside
  · rintro ⟨thread, body, member⟩ gone
    rcases accounted.answered member with inside | ⟨promise, frame, -, -⟩
    · simp [quiet] at inside
    · simp [gone] at frame

/-- Coroutines that never wait for a descriptor compute what they mean as plain functions, in every
interleaving of the threads that call them: nothing is undefined; a thread in a call can go on and
makes exactly as many moves as its calls have instructions; a call that is not under way any more
has ended with its result; and when no call is under way, the frames that are left are those of the
tasks that the callers have. -/
theorem plain_of_performed (performed : Performed next trace state)
    (plain : Plain next outcome cost trace) :
    (∀ action fault, step next state action ≠ some (.error fault)) ∧
    (∀ thread, state.callStacks thread ≠ [] →
      ∃ behind, step next state (.run thread) = some (.ok behind)) ∧
    (∀ thread, moves thread trace ≤ instructions cost thread trace ∧
      (moves thread trace = instructions cost thread trace ↔ state.callStacks thread = [])) ∧
    (∀ thread body task, (.call thread body, task) ∈ trace →
      task ∈ state.callStacks thread ∨ get state task = some (outcome body)) ∧
    ((∀ thread, state.callStacks thread = []) → ∀ task,
      state.frames task ≠ none ↔ ∃ thread body, (.call thread body, task) ∈ trace) :=
  ⟨no_fault_of_performed performed plain, fun _ => goesOn_of_performed performed plain,
    moves_of_performed performed plain, fun _ _ _ => answered_of_performed performed plain,
    frames_of_performed performed plain⟩

end Runs

/-! ## Handing a result on -/

/-- A coroutine that awaits the task of another one twice and joins what it gets. -/
inductive Relay where
  /-- It calls the other one. -/
  | outer (result : Except Unit (List Nat))
  /-- The first `co_await`. -/
  | called (task : Nat)
  /-- The second `co_await`, unless the first one throws. -/
  | awaited (task : Nat) (first : Except Unit (List Nat))
  /-- It destroys the task. -/
  | again (task : Nat) (first : List Nat) (second : Except Unit (List Nat))
  /-- Either one ends. -/
  | ending (result : Except Unit (List Nat))

/-- Its instructions. -/
def relayNext : Relay → Instruction Relay (List Nat) Unit
  | .outer result => .call (.ending result) .called
  | .called task => .coAwait task false (.awaited task)
  | .awaited task (.ok first) => .coAwait task false (.again task first)
  | .awaited task (.error error) => .discard task (.ending (.error error))
  | .again task first second => .discard task (.ending (second.map (first ++ ·)))
  | .ending (.ok values) => .coReturn values
  | .ending (.error error) => .throwOut error

/-- A list that was moved out is empty. -/
instance movableList : Movable (List Nat) := ⟨fun _ => []⟩

theorem ending_relay (result : Except Unit (List Nat)) {tasks : Tasks (List Nat) Unit}
    (released : ∀ task, tasks task = none) :
    Evaluates relayNext tasks (.ending result) result 1 := by
  cases result with
  | ok values => exact .coReturn rfl released
  | error error => exact .throwOut rfl released

/-- How many instructions a relay has. -/
def Relay.cost : Relay → Nat
  | .outer (.ok _) => 6
  | _ => 5

/-- The values come once, although they are awaited twice. -/
theorem outer_relay (result : Except Unit (List Nat)) :
    Evaluates relayNext (fun _ => none) (.outer result) result (Relay.outer result).cost := by
  have called : relayNext (.outer result) = .call (.ending result) .called := rfl
  cases result with
  | ok values =>
      have joined : ((Except.ok values : Except Unit (List Nat)).map Movable.movedFrom).map
          (values ++ ·) = .ok values := congrArg Except.ok (List.append_nil values)
      have awaited : ∀ task, Evaluates relayNext
          (Function.update (fun _ => none) task (some (.ok values))) (.called task) (.ok values)
            4 := by
        intro task
        refine .coAwait rfl (Function.update_self ..) (.coAwait rfl (Function.update_self ..)
          (.discard (congrArg (Instruction.discard task ∘ Relay.ending) joined)
            (Function.update_self ..) (ending_relay _ (released_of_only ?_))))
        intro other away
        simp [away]
      exact .call called (ending_relay _ fun _ => rfl) fun task _ => awaited task
  | error error =>
      have awaited : ∀ task, Evaluates relayNext
          (Function.update (fun _ => none) task (some (.error error))) (.called task)
            (.error error) 3 := by
        intro task
        refine .coAwait rfl (Function.update_self ..) (.discard rfl (Function.update_self ..)
          (ending_relay _ (released_of_only ?_)))
        intro other away
        simp [away]
      exact .call called (ending_relay _ fun _ => rfl) fun task _ => awaited task

/-- What each position means. -/
def Relay.outcome : Relay → Except Unit (List Nat)
  | .outer result | .ending result => result
  | _ => .error ()

/-- Two threads hand on values and an error at the same time. -/
theorem plain_of_performed_relays : ∃ trace state, Performed relayNext trace state ∧
    get state 0 = some (.ok [7]) ∧ get state 1 = some (.error ()) := by
  have called : Performed relayNext _ _ :=
    .step (.call 2 (.outer (.error ()))) (.step (.call 1 (.outer (.ok [7]))) .initial rfl) rfl
  have first := Performed.step (.run 2) (.step (.run 1) (.step (.run 1) called rfl) rfl) rfl
  have second := Performed.step (.run 1) (.step (.run 2) (.step (.run 1) first rfl) rfl) rfl
  have third := Performed.step (.run 2) (.step (.run 1) (.step (.run 2) second rfl) rfl) rfl
  have performed := Performed.step (.run 1) (.step (.run 2) third rfl) rfl
  obtain ⟨-, -, moved, answered, -⟩ := plain_of_performed performed
    (show Plain relayNext Relay.outcome Relay.cost _ by
      intro thread body task member
      simp only [List.mem_cons, Prod.mk.injEq, Action.call.injEq, reduceCtorEq, false_and,
        false_or, List.not_mem_nil, or_false] at member
      rcases member with ⟨⟨-, rfl⟩, -⟩ | ⟨⟨-, rfl⟩, -⟩ <;> exact outer_relay _)
  have first_free := List.eq_nil_iff_forall_not_mem.mp ((moved 1).2.mp rfl) 0
  have second_free := List.eq_nil_iff_forall_not_mem.mp ((moved 2).2.mp rfl) 1
  refine ⟨_, _, performed, ?_, ?_⟩
  · exact (answered 1 (.outer (.ok [7])) 0 (by simp)).resolve_left first_free
  · exact (answered 2 (.outer (.error ())) 1 (by simp [State.setStack, State.create])).resolve_left
      second_free

end Async

end Hxrpc
