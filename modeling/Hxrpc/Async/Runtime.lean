import Hxrpc.Lib.Epoll
import Hxrpc.Lib.GuardedRun
import Mathlib.Data.List.AList

/-!
# The loop of the asynchronous runtime

`AsyncRuntime` with its awaiters.  Any thread enqueues waits, destroys awaiters and cancels tokens;
one thread runs the loop, which moves a wait from `pending_` through the items of one registration
pass into `registrations_` and out of it again.  The sections under a lock, the destructor of an
awaiter and `ResumeReady` are atomic.  What a coroutine does once it is resumed are steps of their
own, which may come before the loop goes on.
-/

namespace Hxrpc

open Epoll

namespace AsyncRuntime

/-- `FdAwaiter::WaitState`. -/
structure WaitState where
  /-- `timed_out`. -/
  timedOut : Bool := false
  /-- `completed`. -/
  completed : Bool := false
  /-- `cancelled`. -/
  cancelled : Bool := false
  /-- `token`. -/
  token : UInt64 := 0
  deriving DecidableEq

/-- `FdAwaiter`. -/
structure FdAwaiter where
  /-- `fd_`. -/
  fd : Int
  /-- `events_`. -/
  events : UInt32
  /-- `timeout_ms_`. -/
  timeoutMs : Int
  /-- `state_`, by which the awaiter is known. -/
  state : Nat

/-- `WaitRegistration`. -/
structure WaitRegistration where
  /-- `token`. -/
  token : UInt64 := 0
  /-- `fd`. -/
  fd : Int
  /-- `events`. -/
  events : UInt32
  /-- `timeout_ms`. -/
  timeoutMs : Int
  /-- `deadline`, in milliseconds. -/
  deadline : Int
  /-- `handle`. -/
  handle : Nat
  /-- `state`. -/
  state : Nat
  /-- How many waits were enqueued before this one; no code looks at it. -/
  number : Nat := 0
  deriving DecidableEq

/-- What is written down of a run. -/
inductive Event where
  /-- `handle.resume()` for this wait. -/
  | resumed (registration : WaitRegistration)
  /-- The awaiter with this state is destroyed. -/
  | destroyed (state : Nat)
  deriving DecidableEq

/-- Where the loop stands, with the local variables that it has there; registrations and tokens
that are done with are left out. -/
inductive Point where
  /-- In `ExpireTimedOut`, behind its lock; back at the head of the loop when nothing is left. -/
  | expiring (expired : List WaitRegistration)
  /-- In `RegisterPending` at the head of the loop; `epoll_wait` is next when nothing is left. -/
  | registering (pendingItems : List WaitRegistration)
  /-- In the loop over the events, which may have called `RegisterPending`. -/
  | dispatching (pendingItems : List WaitRegistration) (events : List UInt64)
  /-- In that loop, with a registration that was taken out of the table. -/
  | resuming (registration : WaitRegistration) (events : List UInt64)
  deriving DecidableEq

namespace Point

/-- The registrations in local variables of the loop. -/
def held : Point → List WaitRegistration
  | expiring expired => expired
  | registering pendingItems => pendingItems
  | dispatching pendingItems _ => pendingItems
  | resuming registration _ => [registration]

/-- The tokens that `epoll_wait` returned and that the loop has yet to look at. -/
def harvested : Point → List UInt64
  | expiring _ => []
  | registering _ => []
  | dispatching _ events => events
  | resuming _ events => events

end Point

/-- `AsyncRuntime` and the awaiters. -/
structure State where
  /-- The wait states of all awaiters. -/
  waits : Nat → WaitState := fun _ => {}
  /-- The interest list behind `epoll_fd_`. -/
  epoll : InterestList
  /-- `pending_`. -/
  pending : List WaitRegistration := []
  /-- `registrations_`. -/
  registrations : AList fun _ : UInt64 => WaitRegistration := ∅
  /-- `next_token_`. -/
  nextToken : UInt64 := 1
  /-- The loop. -/
  point : Point := .expiring []
  /-- How many waits were enqueued. -/
  enqueued : Nat := 0
  /-- What happened so far. -/
  log : List Event := []

/-- The size of `events`. -/
def maxEvents : Nat := 64

/-- `FdAwaiter::await_suspend`, up to `Enqueue`. -/
def awaitSuspend (awaiter : FdAwaiter) (now : Int) (handle : Nat) : WaitRegistration where
  fd := awaiter.fd
  events := awaiter.events
  timeoutMs := awaiter.timeoutMs
  deadline := now + awaiter.timeoutMs
  handle := handle
  state := awaiter.state

/-- `completed.store(true)` and `token.store(0)`. -/
def complete (waits : Nat → WaitState) (id : Nat) : Nat → WaitState :=
  Function.update waits id { waits id with completed := true, token := 0 }

/-- The same for each of these registrations. -/
def completeAll (waits : Nat → WaitState) (registrations : List WaitRegistration) :
    Nat → WaitState :=
  registrations.foldl (fun waits registration => complete waits registration.state) waits

namespace State

/-- `Enqueue`. -/
def enqueue (state : State) (registration : WaitRegistration) : State :=
  let registration := { registration with token := state.nextToken, number := state.enqueued }
  { state with
    waits := Function.update state.waits registration.state
      { state.waits registration.state with token := registration.token }
    pending := state.pending ++ [registration]
    nextToken := state.nextToken + 1
    enqueued := state.enqueued + 1 }

/-- The part of `Cancel` under `pending_mutex_`. -/
def cancelPending (state : State) (token : UInt64) : State :=
  { state with
    waits := completeAll state.waits (state.pending.filter fun item => item.token = token)
    pending := state.pending.filter fun item => item.token ≠ token }

/-- The part of `Cancel` under `registrations_mutex_`. -/
def cancelRegistered (state : State) (token : UInt64) : State :=
  match state.registrations.lookup token with
  | none => state
  | some registration =>
      { state with
        epoll := ctlDel state.epoll registration.fd
        waits := complete state.waits registration.state
        registrations := state.registrations.erase token }

/-- `Cancel`. -/
def cancel (state : State) (token : UInt64) : State :=
  if token = 0 then state else (state.cancelPending token).cancelRegistered token

/-- `cancelled.store(true)` at the end of the awaiter with this state. -/
def markCancelled (state : State) (id : Nat) : State :=
  { state with
    waits := Function.update state.waits id { state.waits id with cancelled := true }
    log := state.log ++ [.destroyed id] }

/-- `~FdAwaiter`. -/
def destroy (state : State) (id : Nat) : State :=
  let marked := state.markCancelled id
  if (marked.waits id).token ≠ 0 ∧ (marked.waits id).completed = false then
    marked.cancel (marked.waits id).token
  else marked

/-- `ResumeReady`. -/
def resumeReady (state : State) (registration : WaitRegistration) (timedOut : Bool) : State :=
  if (state.waits registration.state).cancelled then
    { state with waits := complete state.waits registration.state }
  else
    { state with
      waits := Function.update state.waits registration.state
        { state.waits registration.state with timedOut := timedOut, completed := true, token := 0 }
      log := state.log ++ [.resumed registration] }

/-- One round of the loop of `RegisterPending`.  Unless the kernel refuses, one of the two calls of
`epoll_ctl` succeeds. -/
def registerItem (state : State) (registration : WaitRegistration) (refused : Bool) : State :=
  let events := registration.events ||| EPOLLONESHOT
  let armed := if refused then none else
    (ctlAdd state.epoll registration.fd registration.token events).orElse fun _ =>
      ctlMod state.epoll registration.fd registration.token events
  match armed with
  | none => state.resumeReady registration true
  | some interests =>
      { state with
        epoll := interests
        registrations := state.registrations.insert registration.token registration }

/-- One round of the loop over the events, up to the end of its section under the lock; the token
of the wake descriptor starts `RegisterPending`. -/
def dispatch (state : State) (token : UInt64) (events : List UInt64) : State :=
  if token = 0 then { state with pending := [], point := .dispatching state.pending events }
  else
    match state.registrations.lookup token with
    | none => { state with point := .dispatching [] events }
    | some registration =>
        { state with
          point := .resuming registration events
          registrations := state.registrations.erase token }

/-- The entries of `registrations_`. -/
def registered (state : State) : List WaitRegistration := state.registrations.entries.map (·.2)

/-- The entries whose deadline has passed. -/
def overdue (state : State) (now : Int) : List WaitRegistration :=
  state.registered.filter fun registration => registration.deadline ≤ now

/-- The part of `ExpireTimedOut` under the lock, which meets the entries in any order. -/
def expire (state : State) (now : Int) (order : List WaitRegistration) : State :=
  { state with
    point := .expiring order
    epoll := order.foldl (fun interests item => ctlDel interests item.fd) state.epoll
    registrations := ⟨state.registrations.entries.filter fun entry => ¬ entry.2.deadline ≤ now,
      state.registrations.nodupKeys.sublist List.filter_sublist⟩ }

end State

/-- What happens next. -/
inductive Action where
  /-- `co_await` on an awaiter, at this time, by the coroutine with this handle. -/
  | suspend (awaiter : FdAwaiter) (now : Int) (handle : Nat)
  /-- The end of an awaiter. -/
  | destroy (id : Nat)
  /-- A call of `Cancel`. -/
  | cancel (token : UInt64)
  /-- The loop starts again; `RegisterPending` swaps `pending_` out. -/
  | swap
  /-- It registers the next item. -/
  | register (refused : Bool)
  /-- `epoll_wait` returns these descriptors. -/
  | harvest (ready : List Int)
  /-- `epoll_wait` fails. -/
  | waitFails
  /-- The loop looks at the next event. -/
  | dispatch
  /-- It goes on with the registration that it took. -/
  | finishDispatch
  /-- `ExpireTimedOut` takes out what is overdue at this time. -/
  | expire (now : Int) (order : List WaitRegistration)
  /-- It resumes the next of these. -/
  | resumeExpired

/-- One step of the machine.  An awaiter that was destroyed is neither awaited nor destroyed. -/
def step (state : State) : Action → Option State
  | .suspend awaiter now handle =>
      if (state.waits awaiter.state).cancelled then none
      else some (state.enqueue (awaitSuspend awaiter now handle))
  | .destroy id => if (state.waits id).cancelled then none else some (state.destroy id)
  | .cancel token => some (state.cancel token)
  | .swap =>
      match state.point with
      | .expiring [] => some { state with pending := [], point := .registering state.pending }
      | _ => none
  | .register refused =>
      match state.point with
      | .registering (registration :: rest) =>
          some ({ state with point := .registering rest }.registerItem registration refused)
      | .dispatching (registration :: rest) events =>
          some ({ state with point := .dispatching rest events }.registerItem registration refused)
      | _ => none
  | .harvest ready =>
      match state.point with
      | .registering [] =>
          if MayReturn state.epoll maxEvents ready then
            some { state with
              point := .dispatching [] (tokensOf state.epoll ready)
              epoll := deliver state.epoll ready }
          else none
      | _ => none
  | .waitFails =>
      match state.point with
      | .registering [] => some { state with point := .expiring [] }
      | _ => none
  | .dispatch =>
      match state.point with
      | .dispatching [] (token :: events) => some (state.dispatch token events)
      | _ => none
  | .finishDispatch =>
      match state.point with
      | .resuming registration events =>
          some ({ state with
            point := .dispatching [] events
            epoll := ctlDel state.epoll registration.fd }.resumeReady registration false)
      | _ => none
  | .expire now order =>
      match state.point with
      | .dispatching [] [] =>
          if order.Perm (state.overdue now) then some (state.expire now order) else none
      | _ => none
  | .resumeExpired =>
      match state.point with
      | .expiring (registration :: rest) =>
          some ({ state with point := .expiring rest }.resumeReady registration true)
      | _ => none

/-- The runtime when its constructor has registered the wake descriptor. -/
def initial (wakeFd : Int) : State where
  epoll := Function.update (fun _ => none) wakeFd (some ⟨0, EPOLLIN, true⟩)

/-- The states of all runs in which every step meets a condition on the state before it. -/
abbrev Run (wakeFd : Int) (allowed : State → Action → Prop) : State → Prop :=
  GuardedRun (fun state action next => step state action = some next) allowed (initial wakeFd)

/-- The states that any steps lead to. -/
abbrev Reaches (state : State) : State → Prop :=
  GuardedRun (fun state action next => step state action = some next) (fun _ _ => True) state

/-! ## What a step may do -/

/-- The steps, each with what the machine looks like when it is taken. -/
inductive Stepped (state : State) : Action → State → Prop where
  | suspend (awaiter : FdAwaiter) (now : Int) (handle : Nat)
      (alive : ¬ (state.waits awaiter.state).cancelled) :
      Stepped state (.suspend awaiter now handle) (state.enqueue (awaitSuspend awaiter now handle))
  | destroy (id : Nat) (alive : ¬ (state.waits id).cancelled) :
      Stepped state (.destroy id) (state.destroy id)
  | cancel (token : UInt64) : Stepped state (.cancel token) (state.cancel token)
  | swap (before : state.point = .expiring []) :
      Stepped state .swap { state with pending := [], point := .registering state.pending }
  | register {point : Point} {registration : WaitRegistration} (refused : Bool)
      (items : state.point.held = registration :: point.held)
      (harvested : point.harvested = state.point.harvested)
      (idle : ∀ other events, point ≠ .resuming other events) :
      Stepped state (.register refused)
        ({ state with point := point }.registerItem registration refused)
  | harvest (ready : List Int) (before : state.point = .registering [])
      (may : MayReturn state.epoll maxEvents ready) :
      Stepped state (.harvest ready) { state with
        point := .dispatching [] (tokensOf state.epoll ready)
        epoll := deliver state.epoll ready }
  | waitFails (before : state.point = .registering []) :
      Stepped state .waitFails { state with point := .expiring [] }
  | dispatch {token : UInt64} {events : List UInt64}
      (before : state.point = .dispatching [] (token :: events)) :
      Stepped state .dispatch (state.dispatch token events)
  | finishDispatch {registration : WaitRegistration} {events : List UInt64}
      (before : state.point = .resuming registration events) :
      Stepped state .finishDispatch ({ state with
        point := .dispatching [] events
        epoll := ctlDel state.epoll registration.fd }.resumeReady registration false)
  | expire (now : Int) {order : List WaitRegistration} (before : state.point = .dispatching [] [])
      (same : order.Perm (state.overdue now)) :
      Stepped state (.expire now order) (state.expire now order)
  | resumeExpired {registration : WaitRegistration} {rest : List WaitRegistration}
      (before : state.point = .expiring (registration :: rest)) :
      Stepped state .resumeExpired
        ({ state with point := .expiring rest }.resumeReady registration true)

theorem stepped_of_step {state next : State} {action : Action}
    (moved : step state action = some next) : Stepped state action next := by
  cases action with
  | suspend awaiter now handle =>
      simp only [step] at moved
      split at moved
      · cases moved
      · rename_i alive
        cases moved
        exact .suspend awaiter now handle alive
  | destroy id =>
      simp only [step] at moved
      split at moved
      · cases moved
      · rename_i alive
        cases moved
        exact .destroy id alive
  | cancel token =>
      cases moved
      exact .cancel token
  | swap =>
      simp only [step] at moved
      split at moved
      · rename_i before
        cases moved
        exact .swap before
      · cases moved
  | register refused =>
      simp only [step] at moved
      split at moved
      · rename_i before
        cases moved
        exact .register refused (by rw [before]; rfl) (by rw [before]; rfl) (by simp)
      · rename_i before
        cases moved
        exact .register refused (by rw [before]; rfl) (by rw [before]; rfl) (by simp)
      · cases moved
  | harvest ready =>
      simp only [step] at moved
      split at moved
      · rename_i before
        obtain ⟨may, same⟩ := Option.ite_none_right_eq_some.mp moved
        cases same
        exact .harvest ready before may
      · cases moved
  | waitFails =>
      simp only [step] at moved
      split at moved
      · rename_i before
        cases moved
        exact .waitFails before
      · cases moved
  | dispatch =>
      simp only [step] at moved
      split at moved
      · rename_i before
        cases moved
        exact .dispatch before
      · cases moved
  | finishDispatch =>
      simp only [step] at moved
      split at moved
      · rename_i before
        cases moved
        exact .finishDispatch before
      · cases moved
  | expire now order =>
      simp only [step] at moved
      split at moved
      · rename_i before
        obtain ⟨same, moved⟩ := Option.ite_none_right_eq_some.mp moved
        cases moved
        exact .expire now before same
      · cases moved
  | resumeExpired =>
      simp only [step] at moved
      split at moved
      · rename_i before
        cases moved
        exact .resumeExpired before
      · cases moved

/-! ## Marks of awaiters -/

/-- Writing a wait state without touching its mark touches no mark. -/
theorem cancelled_update {waits : Nat → WaitState} {id : Nat} {wait : WaitState}
    (kept : wait.cancelled = (waits id).cancelled) (other : Nat) :
    (Function.update waits id wait other).cancelled = (waits other).cancelled := by
  rcases eq_or_ne other id with rfl | ne
  · rw [Function.update_self, kept]
  · rw [Function.update_of_ne ne]

theorem cancelled_complete (waits : Nat → WaitState) (id other : Nat) :
    (complete waits id other).cancelled = (waits other).cancelled :=
  cancelled_update (by rfl) other

theorem cancelled_completeAll (waits : Nat → WaitState)
    (registrations : List WaitRegistration) (other : Nat) :
    (completeAll waits registrations other).cancelled = (waits other).cancelled := by
  induction registrations generalizing waits with
  | nil => rfl
  | cons registration rest ih => exact (ih _).trans (cancelled_complete _ _ _)

theorem cancelled_markCancelled (state : State) (id : Nat) :
    ((state.markCancelled id).waits id).cancelled := by
  simp only [State.markCancelled, Function.update_self]

theorem cancelled_markCancelled_of_cancelled (state : State) (id : Nat) {other : Nat}
    (gone : (state.waits other).cancelled) : ((state.markCancelled id).waits other).cancelled := by
  rcases eq_or_ne other id with rfl | ne
  · exact cancelled_markCancelled state other
  · simpa only [State.markCancelled, Function.update_of_ne ne] using gone

/-! ## The table -/

/-- An entry of the table stands under its token, whatever else happens to it. -/
theorem perm_registered_of_lookup {state : State} {token : UInt64} {item : WaitRegistration}
    (found : state.registrations.lookup token = some item) :
    state.registered.Perm (item :: (state.registrations.erase token).entries.map (·.2)) := by
  have known : token ∈ state.registrations.entries.keys :=
    List.mem_keys_of_mem (AList.mem_lookup_iff.mp found)
  obtain ⟨other, front, back, -, entries_eq, erased⟩ := List.exists_of_kerase known
  have first : state.registrations.lookup token = some other := by
    rw [← Option.mem_def, AList.mem_lookup_iff, entries_eq]
    simp
  obtain rfl := Option.some.inj (first.symm.trans found)
  change (state.registrations.entries.map (·.2)).Perm
    (other :: (state.registrations.entries.kerase token).map (·.2))
  rw [erased, entries_eq, List.map_append, List.map_append, List.map_cons]
  exact List.perm_middle

theorem mem_registered_iff {state : State} {item : WaitRegistration} :
    item ∈ state.registered ↔ ∃ token, state.registrations.lookup token = some item := by
  simp [State.registered, ← AList.mem_lookup_iff]

/-! ## What the parts of a step do -/

namespace State

/-- `ResumeReady` resumes the handle unless the awaiter was destroyed, and marks the wait. -/
theorem resumeReady_eq (state : State) (registration : WaitRegistration) (timedOut : Bool) :
    ∃ waits log, state.resumeReady registration timedOut =
        { state with waits := waits, log := log } ∧
      (∀ id, (waits id).cancelled = (state.waits id).cancelled) ∧
      (log = state.log ∨
        log = state.log ++ [.resumed registration] ∧
          (state.waits registration.state).cancelled = false) := by
  cases gone : (state.waits registration.state).cancelled with
  | true =>
      refine ⟨complete state.waits registration.state, state.log, ?_, ?_, Or.inl rfl⟩
      · simp only [resumeReady, gone, if_true]
      · exact cancelled_complete _ _
  | false =>
      refine ⟨Function.update state.waits registration.state { state.waits registration.state with
        timedOut := timedOut, completed := true, token := 0 },
        state.log ++ [.resumed registration], ?_, cancelled_update (by rfl), Or.inr ⟨rfl, rfl⟩⟩
      simp [resumeReady, gone]

/-- `Cancel` takes out pending items and at most one entry of the table, with its descriptor. -/
theorem cancel_eq (state : State) (token : UInt64) :
    ∃ waits pending epoll registrations, state.cancel token =
        { state with
          waits := waits, pending := pending, epoll := epoll, registrations := registrations } ∧
      (∀ id, (waits id).cancelled = (state.waits id).cancelled) ∧
      pending.Sublist state.pending ∧
      ((token = 0 ∨ state.registrations.lookup token = none) ∧
          epoll = state.epoll ∧ registrations = state.registrations ∨
        ∃ registration, state.registrations.lookup token = some registration ∧
          epoll = ctlDel state.epoll registration.fd ∧
          registrations = state.registrations.erase token) := by
  by_cases zero : token = 0
  · refine ⟨state.waits, state.pending, state.epoll, state.registrations, ?_, fun _ => rfl,
      List.Sublist.refl _, Or.inl ⟨Or.inl zero, rfl, rfl⟩⟩
    rw [cancel, if_pos zero]
  have cancelled : state.cancel token = (state.cancelPending token).cancelRegistered token :=
    if_neg zero
  cases found : state.registrations.lookup token with
  | none =>
      refine ⟨(state.cancelPending token).waits, (state.cancelPending token).pending, state.epoll,
        state.registrations, ?_, cancelled_completeAll _ _, List.filter_sublist,
        Or.inl ⟨Or.inr rfl, rfl, rfl⟩⟩
      rw [cancelled]
      simp only [cancelRegistered, cancelPending, found]
  | some registration =>
      refine ⟨complete (state.cancelPending token).waits registration.state,
        (state.cancelPending token).pending, ctlDel state.epoll registration.fd,
        state.registrations.erase token, ?_, fun id => ?_, List.filter_sublist,
        Or.inr ⟨registration, rfl, rfl, rfl⟩⟩
      · rw [cancelled]
        simp only [cancelRegistered, cancelPending, found]
      · rw [cancelled_complete, cancelPending, cancelled_completeAll]

/-- An item that the kernel refuses is resumed as if it had timed out. -/
theorem registerItem_refused (state : State) (registration : WaitRegistration) :
    state.registerItem registration true = state.resumeReady registration true := rfl

/-- Any other item arms its descriptor, whoever had armed it before, and is filed. -/
theorem registerItem_granted (state : State) (registration : WaitRegistration) :
    state.registerItem registration false =
      { state with
        epoll := Function.update state.epoll registration.fd
          (some ⟨registration.token, registration.events ||| EPOLLONESHOT, true⟩)
        registrations := state.registrations.insert registration.token registration } := by
  simp only [registerItem, ctlAdd_orElse_ctlMod, Bool.false_eq_true, if_false]

end State

end AsyncRuntime

end Hxrpc
