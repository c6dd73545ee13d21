import Hxrpc.Async.Direct
import Hxrpc.Client.RpcClient

/-!
# The synchronous interface

`Invoke` runs `InvokeAsync` and takes the result with `Get`.  The coroutines of a call are the two
overloads of `InvokeAsync` and `RoundTripAsync` of the transport, which runs `RoundTrip`: none of
them waits for a descriptor, so the task of a call is done when the call returns.
-/

namespace Hxrpc

namespace RpcClient

open Async RpcStatusCode

variable {Message Exception : Type}

/-- What a call meets outside of its coroutines: the resolver and `RoundTrip`, which return or
throw, the request id that it draws and the message pool. -/
structure Surroundings (Exception Message : Type) where
  /-- `resolver_->Resolve`. -/
  resolve : Bytes → Bytes → Except Exception (Except RpcError ServiceInstance)
  /-- `next_request_id_`. -/
  nextRequestId : UInt64
  /-- `RoundTrip`. -/
  roundTrip : Endpoint → Bytes → CallOptions → Except Exception (Except RpcError Bytes)
  /-- `message_pool_`. -/
  messagePool : MessagePool Message

/-- What a task holds: the result of a call with the caller's response object, or a response
frame. -/
inductive Held (Message : Type) where
  /-- Of `InvokeAsync`. -/
  | invoked (result : Except RpcError Unit) (response : Message)
  /-- Of `RoundTripAsync`. -/
  | roundTripped (responseFrame : Except RpcError Bytes)

/-- The positions in the bodies of the coroutines. -/
inductive Position (Exception Message : Type) where
  /-- `InvokeAsync` without options. -/
  | invokeAsyncDefault (method : MethodDescriptor) (request response : Message)
      (surroundings : Surroundings Exception Message)
  /-- `co_await invoke_task`. -/
  | awaitInvoke (task : Nat)
  /-- The result of `invoke_task`, which is destroyed. -/
  | invoked (task : Nat) (result : Except Exception (Held Message))
  /-- `InvokeAsync`. -/
  | invokeAsync (invocation : Invocation Message) (surroundings : Surroundings Exception Message)
  /-- `co_await round_trip_task`. -/
  | awaitRoundTrip (invocation : Invocation Message)
      (surroundings : Surroundings Exception Message) (task : Nat)
  /-- The result of `round_trip_task`. -/
  | roundTripped (invocation : Invocation Message)
      (surroundings : Surroundings Exception Message) (task : Nat)
      (result : Except Exception (Held Message))
  /-- `RoundTripAsync`. -/
  | roundTripAsync (endpoint : Endpoint) (frame : Bytes) (options : CallOptions)
      (surroundings : Surroundings Exception Message)
  /-- The end of a body, with its locals destroyed. -/
  | ending (result : Except Exception (Held Message))

/-- `InvokeAsync` behind the round trip, as a value. -/
def heldReceive (client : RpcClient Message) (invocation : Invocation Message)
    (surroundings : Surroundings Exception Message) (responseFrame : Except RpcError Bytes) :
    Held Message :=
  let received :=
    client.invokeAsyncReceive surroundings.messagePool invocation.response responseFrame
  .invoked received.1 received.2.1

/-- The instructions of the coroutines; `callOptions` is `config_.call_options`.  A local task is
destroyed where the body ends, after the operand of `co_return` and when an exception leaves the
body. -/
def next (client : RpcClient Message) (callOptions : CallOptions) :
    Position Exception Message → Instruction (Position Exception Message) (Held Message) Exception
  | .invokeAsyncDefault method request response surroundings =>
      .call (.invokeAsync ⟨method, request, response, callOptions⟩ surroundings) .awaitInvoke
  | .awaitInvoke task => .coAwait task false (.invoked task)
  | .invoked task result => .discard task (.ending result)
  | .invokeAsync invocation surroundings =>
      match surroundings.resolve invocation.method.serviceName invocation.method.name with
      | .error exception => .throwOut exception
      | .ok resolved =>
          match (client.invokeAsyncSend surroundings.nextRequestId invocation resolved).1 with
          | .error error => .coReturn (.invoked (.error error) invocation.response)
          | .ok outgoing =>
              .call (.roundTripAsync outgoing.endpoint outgoing.frame invocation.options
                surroundings) (.awaitRoundTrip invocation surroundings)
  | .awaitRoundTrip invocation surroundings task =>
      .coAwait task false (.roundTripped invocation surroundings task)
  | .roundTripped invocation surroundings task (.ok (.roundTripped responseFrame)) =>
      .discard task (.ending (.ok (client.heldReceive invocation surroundings responseFrame)))
  -- An exception; the type of the task excludes another result.
  | .roundTripped _ _ task result => .discard task (.ending result)
  | .roundTripAsync endpoint frame options surroundings =>
      match surroundings.roundTrip endpoint frame options with
      | .error exception => .throwOut exception
      | .ok responseFrame => .coReturn (.roundTripped responseFrame)
  | .ending (.error exception) => .throwOut exception
  | .ending (.ok held) => .coReturn held

/-- `InvokeAsync` as a plain function. -/
def answer (client : RpcClient Message) (invocation : Invocation Message)
    (surroundings : Surroundings Exception Message) : Except Exception (Held Message) :=
  match surroundings.resolve invocation.method.serviceName invocation.method.name with
  | .error exception => .error exception
  | .ok resolved =>
      match (client.invokeAsyncSend surroundings.nextRequestId invocation resolved).1 with
      | .error error => .ok (.invoked (.error error) invocation.response)
      | .ok outgoing =>
          match surroundings.roundTrip outgoing.endpoint outgoing.frame invocation.options with
          | .error exception => .error exception
          | .ok responseFrame => .ok (client.heldReceive invocation surroundings responseFrame)

/-- When the round trip runs on a connection and comes back, the plain function is `InvokeAsync` as
its two halves around that round trip. -/
theorem answer_of_invokeAsync {client : RpcClient Message} {strerror : Nat → Bytes}
    {invocation : Invocation Message} {surroundings : Surroundings Exception Message}
    {resolved : Except RpcError ServiceInstance} {sends : List TcpClientTransport.SendAttempt}
    {recvs : List TcpClientTransport.RecvAttempt} {result : Except RpcError Unit}
    {response : Message} {pool : MessagePool Message} {nextRequestId : UInt64}
    (resolves : surroundings.resolve invocation.method.serviceName invocation.method.name =
      .ok resolved)
    (carries : ∀ endpoint frame responseFrame,
      TcpClientTransport.roundTrip strerror frame sends recvs = some responseFrame →
        surroundings.roundTrip endpoint frame invocation.options = .ok responseFrame)
    (returned : client.invokeAsync strerror surroundings.nextRequestId surroundings.messagePool
      invocation resolved sends recvs = some (result, response, pool, nextRequestId)) :
    client.answer invocation surroundings = .ok (.invoked result response) := by
  simp only [invokeAsync] at returned
  simp only [answer, resolves]
  split at returned
  · rename_i send
    simp only [Option.some.injEq, Prod.mk.injEq] at returned
    obtain ⟨rfl, rfl, -, -⟩ := returned
    simp [send]
  · rename_i outgoing _ send
    split at returned
    · cases returned
    · rename_i responseFrame carried
      simp only [Option.some.injEq, Prod.mk.injEq] at returned
      obtain ⟨rfl, rfl, -, -⟩ := returned
      simp [send, carries outgoing.endpoint _ _ carried, heldReceive]

/-- How many instructions `InvokeAsync` has, those of `RoundTripAsync` included. -/
def instructionsOf (client : RpcClient Message) (invocation : Invocation Message)
    (surroundings : Surroundings Exception Message) : Nat :=
  match surroundings.resolve invocation.method.serviceName invocation.method.name with
  | .error _ => 1
  | .ok resolved =>
      match (client.invokeAsyncSend surroundings.nextRequestId invocation resolved).1 with
      | .error _ => 1
      | .ok _ => 5

section Plain

variable [Movable (Held Message)] (client : RpcClient Message) (callOptions : CallOptions)

theorem evaluates_ending {tasks : Tasks (Held Message) Exception}
    (result : Except Exception (Held Message)) (released : ∀ task, tasks task = none) :
    Evaluates (client.next callOptions) tasks (.ending result) result 1 := by
  cases result with
  | error exception => exact .throwOut rfl released
  | ok held => exact .coReturn rfl released

theorem evaluates_roundTripAsync (endpoint : Endpoint) (frame : Bytes) (options : CallOptions)
    (surroundings : Surroundings Exception Message) :
    Evaluates (client.next callOptions) (fun _ => none)
      (.roundTripAsync endpoint frame options surroundings)
      ((surroundings.roundTrip endpoint frame options).map .roundTripped) 1 := by
  cases answered : surroundings.roundTrip endpoint frame options with
  | error exception => exact .throwOut (by simp [next, answered]) fun _ => rfl
  | ok responseFrame => exact .coReturn (by simp [next, answered]) fun _ => rfl

/-- A body awaits its only task, destroys it and ends. -/
theorem evaluates_coAwait {position : Position Exception Message} {task : Nat}
    {resume : Except Exception (Held Message) → Position Exception Message}
    {result held : Except Exception (Held Message)}
    (reached : client.next callOptions position = .coAwait task false resume)
    (resumed : client.next callOptions (resume result) = .discard task (.ending held)) :
    Evaluates (client.next callOptions) (Function.update (fun _ => none) task (some result))
      position held 3 := by
  refine .coAwait reached (Function.update_self ..) (.discard resumed (Function.update_self ..)
    (evaluates_ending client callOptions held (released_of_only ?_)))
  intro other away
  simp [away]

theorem evaluates_invokeAsync (invocation : Invocation Message)
    (surroundings : Surroundings Exception Message) :
    Evaluates (client.next callOptions) (fun _ => none) (.invokeAsync invocation surroundings)
      (client.answer invocation surroundings) (client.instructionsOf invocation surroundings) := by
  cases resolve : surroundings.resolve invocation.method.serviceName invocation.method.name with
  | error exception =>
      simp only [answer, instructionsOf, resolve]
      exact .throwOut (by simp [next, resolve]) fun _ => rfl
  | ok resolved =>
      cases send :
          (client.invokeAsyncSend surroundings.nextRequestId invocation resolved).1 with
      | error error =>
          simp only [answer, instructionsOf, resolve, send]
          exact .coReturn (by simp [next, resolve, send]) fun _ => rfl
      | ok outgoing =>
          simp only [answer, instructionsOf, resolve, send]
          have reached : client.next callOptions (.invokeAsync invocation surroundings) =
              .call (.roundTripAsync outgoing.endpoint outgoing.frame invocation.options
                surroundings) (.awaitRoundTrip invocation surroundings) := by
            simp [next, resolve, send]
          have awaited : ∀ task, Evaluates (client.next callOptions)
              (Function.update (fun _ => none) task (some ((surroundings.roundTrip
                outgoing.endpoint outgoing.frame invocation.options).map .roundTripped)))
              (.awaitRoundTrip invocation surroundings task)
              (match surroundings.roundTrip outgoing.endpoint outgoing.frame
                  invocation.options with
                | .error exception => .error exception
                | .ok responseFrame =>
                    .ok (client.heldReceive invocation surroundings responseFrame)) 3 := by
            intro task
            cases surroundings.roundTrip outgoing.endpoint outgoing.frame invocation.options with
            | error exception => exact evaluates_coAwait client callOptions rfl rfl
            | ok responseFrame => exact evaluates_coAwait client callOptions rfl rfl
          exact .call reached (evaluates_roundTripAsync client callOptions _ _ _ surroundings)
            fun task _ => awaited task

theorem evaluates_invokeAsyncDefault (method : MethodDescriptor) (request response : Message)
    (surroundings : Surroundings Exception Message) :
    Evaluates (client.next callOptions) (fun _ => none)
      (.invokeAsyncDefault method request response surroundings)
      (client.answer ⟨method, request, response, callOptions⟩ surroundings)
      (client.instructionsOf ⟨method, request, response, callOptions⟩ surroundings + 3 + 1) := by
  have reached : client.next callOptions
      (.invokeAsyncDefault method request response surroundings) =
        .call (.invokeAsync ⟨method, request, response, callOptions⟩ surroundings)
          .awaitInvoke := rfl
  refine .call reached (evaluates_invokeAsync client callOptions _ surroundings) fun task _ => ?_
  exact evaluates_coAwait client callOptions rfl rfl

end Plain

/-- What `Invoke` gets from `Get`, for the bodies that it calls. -/
def outcomeOf (client : RpcClient Message) (callOptions : CallOptions) :
    Position Exception Message → Except Exception (Held Message)
  | .invokeAsync invocation surroundings => client.answer invocation surroundings
  | .invokeAsyncDefault method request response surroundings =>
      client.answer ⟨method, request, response, callOptions⟩ surroundings
  | _ => .ok (.roundTripped (.ok []))

/-- The instructions of these bodies. -/
def costOf (client : RpcClient Message) (callOptions : CallOptions) :
    Position Exception Message → Nat
  | .invokeAsync invocation surroundings => client.instructionsOf invocation surroundings
  | .invokeAsyncDefault method request response surroundings =>
      client.instructionsOf ⟨method, request, response, callOptions⟩ surroundings + 4
  | _ => 0

/-- The bodies that users of a client call. -/
def Position.Starts : Position Exception Message → Prop
  | .invokeAsync _ _ | .invokeAsyncDefault _ _ _ _ => True
  | _ => False

section Runs

variable [Movable (Held Message)] {client : RpcClient Message} {callOptions : CallOptions}
  {trace : Trace (Position Exception Message)}
  {state : State (Position Exception Message) (Held Message) Exception}

theorem plain_of_starts
    (starts : ∀ thread body task, (.call thread body, task) ∈ trace → body.Starts) :
    Plain (client.next callOptions) (client.outcomeOf callOptions) (client.costOf callOptions)
      trace := by
  intro thread body task member
  have start := starts thread body task member
  cases body with
  | invokeAsync invocation surroundings =>
      exact evaluates_invokeAsync client callOptions invocation surroundings
  | invokeAsyncDefault method request response surroundings =>
      exact evaluates_invokeAsyncDefault client callOptions method request response surroundings
  | _ => exact start.elim

omit [Movable (Held Message)] in
theorem costOf_le (body : Position Exception Message) : client.costOf callOptions body ≤ 9 := by
  have instructions_le : ∀ invocation (surroundings : Surroundings Exception Message),
      client.instructionsOf invocation surroundings ≤ 5 := by
    intro invocation surroundings
    simp only [instructionsOf]
    split
    · omega
    · split <;> omega
  cases body with
  | invokeAsync invocation surroundings =>
      exact (instructions_le invocation surroundings).trans (by omega)
  | invokeAsyncDefault method request response surroundings =>
      exact Nat.add_le_add_right (instructions_le _ surroundings) 4
  | _ => exact Nat.zero_le _

/-- Any number of threads call `Invoke` or `InvokeAsync`, with or without options, in any
interleaving: nothing is undefined, a thread in a call can go on and makes at most nine moves for
each call, and a call that has returned has a task from which `Get` takes at once what the call
means as a plain function; the tasks are all that is left of the coroutines of calls that have
returned. -/
theorem invoke_returns_answer (performed : Performed (client.next callOptions) trace state)
    (starts : ∀ thread body task, (.call thread body, task) ∈ trace → body.Starts) :
    (∀ action fault, Async.step (client.next callOptions) state action ≠ some (.error fault)) ∧
    (∀ thread, state.callStacks thread ≠ [] → ∃ behind,
      Async.step (client.next callOptions) state (.run thread) = some (.ok behind)) ∧
    (∀ thread, moves thread trace ≤ instructions (fun _ => 9) thread trace) ∧
    (∀ thread invocation surroundings task,
      (.call thread (.invokeAsync invocation surroundings), task) ∈ trace →
        task ∈ state.callStacks thread ∨
          get state task = some (client.answer invocation surroundings)) ∧
    (∀ thread method request response surroundings task,
      (.call thread (.invokeAsyncDefault method request response surroundings), task) ∈ trace →
        task ∈ state.callStacks thread ∨ get state task =
          some (client.answer ⟨method, request, response, callOptions⟩ surroundings)) ∧
    ((∀ thread, state.callStacks thread = []) → ∀ task, state.frames task ≠ none ↔
      ∃ thread body, (.call thread body, task) ∈ trace) := by
  have plain : Plain (client.next callOptions) (client.outcomeOf callOptions)
      (client.costOf callOptions) trace := plain_of_starts starts
  refine ⟨no_fault_of_performed performed plain, fun _ => goesOn_of_performed performed plain,
    ?_, ?_, ?_, frames_of_performed performed plain⟩
  · intro thread
    exact (moves_of_performed performed plain thread).1.trans
      (instructions_mono costOf_le thread trace)
  · intro thread invocation surroundings task called
    exact answered_of_performed performed plain called
  · intro thread method request response surroundings task called
    exact answered_of_performed performed plain called

end Runs

/-- Texts and frames that were moved out are empty. -/
instance movableHeld : Movable (Held Message) where
  movedFrom
    | .invoked result response =>
        .invoked (result.mapError fun error => { error with message := [] }) response
    | .roundTripped (.ok _) => .roundTripped (.ok [])
    | .roundTripped (.error error) => .roundTripped (.error { error with message := [] })

/-- A resolver that knows nothing, or whose answer is an exception. -/
def unresolved (answer : Except Unit RpcError) : Surroundings Unit Proto3.BytesMessage where
  resolve _ _ := answer.map .error
  nextRequestId := 1
  roundTrip _ _ _ := .error ()
  messagePool := {}

/-- A server that answers the first request with the name `A`. -/
def answered : Surroundings Unit Proto3.BytesMessage where
  resolve _ _ := .ok (.ok ⟨text "h:80", ⟨text "h", 80⟩⟩)
  nextRequestId := 1
  roundTrip _ _ _ := .ok (.ok [0, 0, 0, 11, 0, 0, 0, 4, 8, 1, 32, 3, 10, 1, 65])
  messagePool := {}

/-- A call of the method `m`. -/
def callOfM : Invocation Proto3.BytesMessage :=
  ⟨⟨text "S", text "m"⟩, ⟨text "T", [], []⟩, ⟨text "T", [], []⟩, {}⟩

/-- Three threads call at the same time: one gets the error of the resolver, one its exception, and
one the answer of the server. -/
theorem invoke_returns_answer_three_calls : ∃ trace state,
    Performed (bytesClient.next {}) trace state ∧
    get state 0 = some (.ok (.invoked (.error ⟨kDiscoveryError, []⟩) ⟨text "T", [], []⟩)) ∧
    get state 1 = some (.error ()) ∧
    get state 2 = some (.ok (.invoked (.ok ()) ⟨text "T", text "A", []⟩)) := by
  have called : Performed (bytesClient.next {}) _ _ :=
    .step (.call 3 (.invokeAsync callOfM answered)) (.step (.call 2
      (.invokeAsyncDefault ⟨text "S", text "m"⟩ ⟨text "T", [], []⟩ ⟨text "T", [], []⟩
        (unresolved (.error ())))) (.step (.call 1 (.invokeAsync callOfM
          (unresolved (.ok ⟨kDiscoveryError, []⟩)))) .initial rfl) rfl) rfl
  have first := Performed.step (.run 2) (.step (.run 1) (.step (.run 2) called rfl) rfl) rfl
  have second := Performed.step (.run 2) (.step (.run 2) (.step (.run 3) first rfl) rfl) rfl
  have third := Performed.step (.run 3) (.step (.run 2) (.step (.run 3) second rfl) rfl) rfl
  have performed := Performed.step (.run 3) (.step (.run 3) third rfl) rfl
  obtain ⟨-, -, -, ends, defaulted, -⟩ := invoke_returns_answer performed (by
    intro thread body task member
    simp only [List.mem_cons, Prod.mk.injEq, Action.call.injEq, reduceCtorEq, false_and,
      false_or, List.not_mem_nil, or_false] at member
    rcases member with ⟨⟨-, rfl⟩, -⟩ | ⟨⟨-, rfl⟩, -⟩ | ⟨⟨-, rfl⟩, -⟩ <;> trivial)
  refine ⟨_, _, performed, ?_, ?_, ?_⟩
  · exact (ends 1 callOfM (unresolved (.ok ⟨kDiscoveryError, []⟩)) 0 (by simp)).resolve_left
      (List.eq_nil_iff_forall_not_mem.mp rfl 0)
  · exact (defaulted 2 ⟨text "S", text "m"⟩ ⟨text "T", [], []⟩ ⟨text "T", [], []⟩
      (unresolved (.error ())) 1 (by simp [State.setStack, State.create])).resolve_left
        (List.eq_nil_iff_forall_not_mem.mp rfl 1)
  · have reached : bytesClient.answer callOfM answered =
        .ok (.invoked (.ok ()) ⟨text "T", text "A", []⟩) := by rfl
    rw [← reached]
    exact (ends 3 callOfM answered 2 (by simp [State.setStack, State.create])).resolve_left
      (List.eq_nil_iff_forall_not_mem.mp rfl 2)

end RpcClient

end Hxrpc
