import Hxrpc.Lib.GuardedRun
import Mathlib.Logic.Function.Basic
import Mathlib.Data.List.Basic

/-!
# Coroutines that return a task

`Task<T>` with its promise and its awaiter, and the part of `AsyncRuntime` that resumes a coroutine
which waits for a descriptor.  The bodies of the coroutines are arbitrary: a local state says which
instruction is next.  Each thread has a stack of coroutines that it runs: a call runs the callee at
once, on top of the caller, and a transfer of control replaces the top of the stack.  `Task<void>`
is the case of a value without content.
-/

namespace Hxrpc

namespace Async

/-- A type with a move; `movedFrom` is what stays behind in an object whose value was moved out. -/
class Movable (Value : Type) where
  movedFrom : Value → Value

/-- What the body of a coroutine does next. -/
inductive Instruction (Local Value Error : Type) where
  /-- `co_return`. -/
  | coReturn (value : Value)
  /-- An exception leaves the body. -/
  | throwOut (error : Error)
  /-- `co_await AsyncRuntime::WaitFor(..)`. -/
  | waitFor (resume : Bool → Local)
  /-- Call a coroutine and keep its task. -/
  | call (body : Local) (resume : Nat → Local)
  /-- `co_await` on a task, as an lvalue or as an rvalue. -/
  | coAwait (task : Nat) (rvalue : Bool) (resume : Except Error Value → Local)
  /-- Destroy a task. -/
  | discard (task : Nat) (resume : Local)

/-- `promise_type`. -/
structure Promise (Value Error : Type) where
  /-- `value`. -/
  value : Option Value := none
  /-- `exception`. -/
  exception : Option Error := none
  /-- `done`. -/
  done : Bool := false
  /-- `continuation`. -/
  continuation : Option Nat := none

/-- Where a coroutine stands. -/
inductive Point (Local Value Error : Type) where
  /-- In its body, on the stack of a thread. -/
  | running (code : Local)
  /-- `await_ready` was false, `await_suspend` is next. -/
  | suspending (task : Nat) (rvalue : Bool) (resume : Except Error Value → Local)
  /-- Suspended on an `FdAwaiter`. -/
  | atFd (token : Nat) (resume : Bool → Local)
  /-- Suspended at `co_await` on a task. -/
  | atTask (task : Nat) (rvalue : Bool) (resume : Except Error Value → Local)
  /-- At its final suspension point. -/
  | atFinal

/-- The frame of a coroutine. -/
structure Frame (Local Value Error : Type) where
  /-- Where it stands. -/
  point : Point Local Value Error
  /-- Its promise. -/
  promise : Promise Value Error

/-- Who resumes a coroutine. -/
inductive Resumer where
  /-- `AsyncRuntime::ResumeReady`. -/
  | resumeReady
  /-- The handle that an `await_suspend` returned. -/
  | transfer
  deriving DecidableEq

/-- What is written down of a run. -/
inductive Event where
  /-- A coroutine is suspended at `co_await` on a task. -/
  | suspended (coroutine task : Nat)
  /-- It is resumed there, with the flag `done` of that task. -/
  | resumedAtTask (coroutine task : Nat) (done : Bool)
  /-- A coroutine is resumed on an `FdAwaiter`. -/
  | resumedAtFd (coroutine : Nat) (resumer : Resumer)
  deriving DecidableEq

/-- Undefined behaviour. -/
inductive Fault where
  /-- `await_resume` reads a promise that holds neither a value nor an exception. -/
  | emptyPromise (task : Nat)
  /-- A coroutine is resumed that is not suspended, or that is at its final suspension point. -/
  | notSuspended (coroutine : Nat)
  /-- The frame is destroyed. -/
  | destroyed (task : Nat)
  deriving DecidableEq

/-- All coroutines, the threads that run them and the registrations of the runtime. -/
structure State (Local Value Error : Type) where
  /-- The frames that are not destroyed. -/
  frames : Nat → Option (Frame Local Value Error) := fun _ => none
  /-- How many coroutines were called. -/
  created : Nat := 0
  /-- The coroutines on the stack of each thread. -/
  callStacks : Nat → List Nat := fun _ => []
  /-- `pending_` and `registrations_`: tokens with the coroutine that waits. -/
  registrations : Nat → Option Nat := fun _ => none
  /-- `next_token_`. -/
  nextToken : Nat := 1
  /-- What happened so far. -/
  log : List Event := []

/-- What happens next. -/
inductive Action (Local : Type) where
  /-- Code outside of coroutines calls a coroutine. -/
  | call (thread : Nat) (body : Local)
  /-- The coroutine on top of a stack goes on. -/
  | run (thread : Nat)
  /-- `ResumeReady`, for an event or for a wait that timed out. -/
  | resumeReady (token : Nat) (timedOut : Bool)

/-- The thread of `AsyncRuntime::Run`. -/
def loopThread : Nat := 0

variable {Local Value Error : Type}

namespace State

/-- Write a frame. -/
def setFrame (state : State Local Value Error) (id : Nat) (frame : Frame Local Value Error) :
    State Local Value Error :=
  { state with frames := Function.update state.frames id (some frame) }

/-- Change the stack of a thread. -/
def setStack (state : State Local Value Error) (thread : Nat) (stack : List Nat) :
    State Local Value Error :=
  { state with callStacks := Function.update state.callStacks thread stack }

/-- `Cancel`. -/
def cancel (state : State Local Value Error) (token : Nat) : State Local Value Error :=
  { state with registrations := Function.update state.registrations token none }

/-- Write an event down. -/
def record (state : State Local Value Error) (event : Event) : State Local Value Error :=
  { state with log := state.log ++ [event] }

/-- `destroy` on a handle; the awaiter in a frame that waits for a descriptor cancels the wait. -/
def destroy (state : State Local Value Error) (task : Nat) : State Local Value Error :=
  let rest := { state with frames := Function.update state.frames task none }
  match state.frames task with
  | some ⟨.atFd token _, _⟩ => rest.cancel token
  | _ => rest

/-- The frame and the promise of a coroutine that is called; `initial_suspend` never suspends. -/
def create (state : State Local Value Error) (body : Local) : State Local Value Error :=
  { state.setFrame state.created ⟨.running body, {}⟩ with created := state.created + 1 }

end State

/-- What `Awaiter::await_resume` throws or returns. -/
def awaitResume (promise : Promise Value Error) : Option (Except Error Value) :=
  match promise.exception with
  | some error => some (.error error)
  | none => promise.value.map .ok

variable [Movable Value]

/-- What it leaves behind: an exception is thrown again by the next one, a value was moved out. -/
def Promise.moveOut (promise : Promise Value Error) : Promise Value Error :=
  match promise.exception with
  | some _ => promise
  | none => { promise with value := promise.value.map Movable.movedFrom }

section MoveOut

variable (promise : Promise Value Error)

@[simp] theorem done_moveOut : promise.moveOut.done = promise.done := by
  simp only [Promise.moveOut]
  split <;> rfl

@[simp] theorem continuation_moveOut : promise.moveOut.continuation = promise.continuation := by
  simp only [Promise.moveOut]
  split <;> rfl

/-- The next `await_resume` finds what the move left. -/
theorem awaitResume_moveOut :
    awaitResume promise.moveOut = (awaitResume promise).map (Except.map Movable.movedFrom) := by
  rcases promise with ⟨value, exception, done, continuation⟩
  cases exception with
  | some error => rfl
  | none => cases value <;> rfl

end MoveOut

/-- The rest of a `co_await` on a task: `await_resume`, then the destructor of the awaiter, which
owns the handle of an rvalue. -/
def finishAwait (state : State Local Value Error) (id : Nat) (promise : Promise Value Error)
    (task : Nat) (rvalue : Bool) (resume : Except Error Value → Local) :
    Except Fault (State Local Value Error) :=
  match state.frames task with
  | none => .error (.destroyed task)
  | some awaited =>
      match awaitResume awaited.promise with
      | none => .error (.emptyPromise task)
      | some result =>
          let behind :=
            if rvalue then state.destroy task
            else state.setFrame task { awaited with promise := awaited.promise.moveOut }
          .ok (behind.setFrame id ⟨.running (resume result), promise⟩)

/-- A thread resumes a handle: `await_resume` of the awaiter that the coroutine is suspended on,
then the destructor of that awaiter.  An `FdAwaiter` reports that its descriptor is ready unless its
wait was marked as timed out, and its destructor cancels the wait. -/
def resumeHandle (state : State Local Value Error) (resumer : Resumer) (timedOut : Nat → Bool)
    (thread : Nat) (rest : List Nat) (handle : Nat) : Except Fault (State Local Value Error) :=
  match state.frames handle with
  | some ⟨.atFd token resume, promise⟩ =>
      .ok ((((state.setFrame handle ⟨.running (resume (!timedOut token)), promise⟩).cancel
        token).setStack thread (handle :: rest)).record (.resumedAtFd handle resumer))
  | some ⟨.atTask task rvalue resume, promise⟩ =>
      let done := ((state.frames task).map (·.promise.done)).getD false
      finishAwait ((state.setStack thread (handle :: rest)).record
        (.resumedAtTask handle task done)) handle promise task rvalue resume
  | _ => .error (.notSuspended handle)

/-- Go on with the handle that an `await_suspend` returned. -/
def transfer (state : State Local Value Error) (thread : Nat) (rest : List Nat) (handle : Nat) :
    Except Fault (State Local Value Error) :=
  resumeHandle state .transfer (fun _ => false) thread rest handle

/-- `Awaiter::await_suspend`: note the continuation and go on with the awaited coroutine. -/
def awaitSuspend (state : State Local Value Error) (thread : Nat) (rest : List Nat) (id : Nat)
    (promise : Promise Value Error) (task : Nat) (rvalue : Bool)
    (resume : Except Error Value → Local) : Except Fault (State Local Value Error) :=
  let suspended := (state.setFrame id ⟨.atTask task rvalue resume, promise⟩).record
    (.suspended id task)
  match suspended.frames task with
  | none => .error (.destroyed task)
  | some awaited =>
      transfer (suspended.setFrame task
        { awaited with promise := { awaited.promise with continuation := some id } })
        thread rest task

/-- `FinalAwaiter::await_suspend`: the promise is done, and its continuation goes on. -/
def finalSuspend (state : State Local Value Error) (thread : Nat) (rest : List Nat) (id : Nat)
    (promise : Promise Value Error) : Except Fault (State Local Value Error) :=
  let finished := state.setFrame id ⟨.atFinal, { promise with done := true }⟩
  match promise.continuation with
  | some continuation => transfer finished thread rest continuation
  | none => .ok (finished.setStack thread rest)

/-- The next instruction of a coroutine on top of a stack.  A program neither awaits nor destroys a
task that it no longer has, and destroys no coroutine that is not suspended. -/
def execute (state : State Local Value Error) (thread : Nat) (rest : List Nat) (id : Nat)
    (promise : Promise Value Error) :
    Instruction Local Value Error → Option (Except Fault (State Local Value Error))
  | .coReturn value => some (finalSuspend state thread rest id { promise with value := some value })
  | .throwOut error =>
      some (finalSuspend state thread rest id { promise with exception := some error })
  | .waitFor resume =>
      let waiting := state.setFrame id ⟨.atFd state.nextToken resume, promise⟩
      some (.ok { waiting.setStack thread rest with
        registrations := Function.update state.registrations state.nextToken (some id)
        nextToken := state.nextToken + 1 })
  | .call body resume =>
      some (.ok (((state.create body).setFrame id
        ⟨.running (resume state.created), promise⟩).setStack thread (state.created :: id :: rest)))
  | .coAwait task rvalue resume =>
      (state.frames task).map fun awaited =>
        if awaited.promise.done then finishAwait state id promise task rvalue resume
        else .ok (state.setFrame id ⟨.suspending task rvalue resume, promise⟩)
  | .discard task resume =>
      match state.frames task with
      | some ⟨.atFd _ _, _⟩ | some ⟨.atTask _ _ _, _⟩ | some ⟨.atFinal, _⟩ =>
          some (.ok ((state.destroy task).setFrame id ⟨.running resume, promise⟩))
      | _ => none

/-- One step of the machine. -/
def step (next : Local → Instruction Local Value Error) (state : State Local Value Error) :
    Action Local → Option (Except Fault (State Local Value Error))
  | .call thread body =>
      if thread = loopThread ∨ state.callStacks thread ≠ [] then none
      else some (.ok ((state.create body).setStack thread [state.created]))
  | .run thread =>
      match state.callStacks thread with
      | [] => none
      | id :: rest =>
          match state.frames id with
          | some ⟨.running code, promise⟩ => execute state thread rest id promise (next code)
          | some ⟨.suspending task rvalue resume, promise⟩ =>
              some (awaitSuspend state thread rest id promise task rvalue resume)
          | _ => none
  | .resumeReady token timedOut =>
      if state.callStacks loopThread ≠ [] then none
      else
        (state.registrations token).map fun id =>
          resumeHandle (state.cancel token) .resumeReady (fun other => other == token && timedOut)
            loopThread [] id

/-- The states of all runs in which every step meets a condition on the state before it. -/
abbrev Run (next : Local → Instruction Local Value Error)
    (allowed : State Local Value Error → Action Local → Prop) : State Local Value Error → Prop :=
  GuardedRun (fun state action behind => step next state action = some (.ok behind)) allowed {}

end Async

end Hxrpc
