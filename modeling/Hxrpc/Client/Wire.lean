import Hxrpc.Client.Ownership
import Hxrpc.Client.Pairing

/-!
# What the kernel takes from a client

Any number of calls share the connections of a client, and a call may fail in the middle of its
frame.  Still the bytes that the kernel takes on one connection are whole request frames, one behind
the other, and at the end a part of one more: requests of different calls never mix.
-/

namespace Hxrpc

namespace TcpClientTransport

/-- Request frames, one behind the other. -/
def posted (requests : List Posted) : Bytes :=
  requests.flatMap Posted.frame

theorem posted_concat (requests : List Posted) (request : Posted) :
    posted (requests ++ [request]) = posted requests ++ request.frame := by
  simp [posted]

/-- The bytes that a step hands to the kernel, with the number of their connection. -/
def taken (state : State) : Action → Option (Nat × Bytes)
  | .move id (.send (.written count)) => do
      let call ← state.calls id
      match call.phase with
      | .send fd offset => do
          let number ← state.fds fd
          return (number, (call.frame.drop offset).take count)
      | _ => none
  | _ => none

/-- All bytes that the kernel took on each connection, with those of one more step. -/
def carry (wires : Nat → Bytes) : Option (Nat × Bytes) → Nat → Bytes
  | none => wires
  | some (number, bytes) => Function.update wires number (wires number ++ bytes)

/-- The call has no connection yet. -/
def Phase.Unsent : Phase → Prop
  | .borrow | .connect => True
  | _ => False

/-- What the kernel took on a connection is the requests that it took completely and a part of the
one behind them, up to the offset of the call that sends it.  Every request belongs to a call to the
endpoint of the connection, and no call has two. -/
structure Wired (state : State) (wires : Nat → Bytes) : Prop where
  fresh : ∀ {number}, state.opened ≤ number → wires number = []
  unstarted : ∀ {id}, state.started ≤ id → state.calls id = none
  pending : ∀ {number socket}, state.sockets number = some socket →
    socket.completed ≤ socket.requests.length ∧
      socket.requests.length ≤ socket.completed + 1
  between : ∀ {number socket}, state.sockets number = some socket →
    posted (socket.requests.take socket.completed) <+: wires number ∧
      wires number <+: posted socket.requests
  sending : ∀ {id call fd offset number socket}, state.calls id = some call →
    call.phase = .send fd offset → state.fds fd = some number →
    state.sockets number = some socket →
    wires number = posted (socket.requests.take socket.completed) ++ call.frame.take offset
  callers : ∀ {number socket} {index : Nat} {request}, state.sockets number = some socket →
    socket.requests[index]? = some request → ∃ call, state.calls request.call = some call ∧
      call.frame = request.frame ∧ call.endpoint = socket.endpoint ∧ ¬ call.phase.Unsent
  once : ∀ {left right first second} {index place : Nat} {request other},
    state.sockets left = some first → state.sockets right = some second →
    first.requests[index]? = some request → second.requests[place]? = some other →
    request.call = other.call → left = right ∧ index = place

theorem wired_initial : Wired {} fun _ => [] := by
  constructor <;> simp

section Steps

variable {before after : State} {wires : Nat → Bytes} {id number : Nat} {call : Call} {fd : Fd}
  {socket : Socket} {phase : Phase}

/-- A step that sends nothing: no connection has another request afterwards, and no call begins to
send. -/
structure Quiet (before after : State) : Prop where
  opened : after.opened = before.opened
  fds : ∀ fd number, after.fds fd = some number → before.fds fd = some number
  sockets : ∀ number socket, after.sockets number = some socket → ∃ earlier,
    before.sockets number = some earlier ∧ socket.endpoint = earlier.endpoint ∧
      socket.requests = earlier.requests ∧ socket.completed = earlier.completed
  kept : ∀ id call, before.calls id = some call → ∃ later, after.calls id = some later ∧
    later.frame = call.frame ∧ later.endpoint = call.endpoint ∧
      (later.phase.Unsent → call.phase.Unsent)
  sending : ∀ id call fd offset, after.calls id = some call → call.phase = .send fd offset →
    before.calls id = some call
  unstarted : (∀ id, before.started ≤ id → before.calls id = none) →
    ∀ id, after.started ≤ id → after.calls id = none

theorem Wired.quiet (wired : Wired before wires) (quiet : Quiet before after) :
    Wired after wires where
  fresh above := wired.fresh (quiet.opened ▸ above)
  unstarted above := quiet.unstarted (fun _ => wired.unstarted) _ above
  pending found := by
    obtain ⟨earlier, earlier_found, -, requests_eq, completed_eq⟩ := quiet.sockets _ _ found
    rw [requests_eq, completed_eq]
    exact wired.pending earlier_found
  between found := by
    obtain ⟨earlier, earlier_found, -, requests_eq, completed_eq⟩ := quiet.sockets _ _ found
    rw [requests_eq, completed_eq]
    exact wired.between earlier_found
  sending call_found sends fd_found found := by
    obtain ⟨earlier, earlier_found, -, requests_eq, completed_eq⟩ := quiet.sockets _ _ found
    rw [requests_eq, completed_eq]
    exact wired.sending (quiet.sending _ _ _ _ call_found sends) sends (quiet.fds _ _ fd_found)
      earlier_found
  callers found place := by
    obtain ⟨earlier, earlier_found, endpoint_eq, requests_eq, -⟩ := quiet.sockets _ _ found
    obtain ⟨call, call_found, frame_eq, same_endpoint, sent⟩ :=
      wired.callers earlier_found (requests_eq ▸ place)
    obtain ⟨later, later_found, later_frame, later_endpoint, unsent⟩ := quiet.kept _ _ call_found
    exact ⟨later, later_found, later_frame.trans frame_eq,
      later_endpoint.trans (same_endpoint.trans endpoint_eq.symm), fun waits =>
        sent (unsent waits)⟩
  once left_found right_found index_found place_found same := by
    obtain ⟨first, first_found, -, first_eq, -⟩ := quiet.sockets _ _ left_found
    obtain ⟨second, second_found, -, second_eq, -⟩ := quiet.sockets _ _ right_found
    exact wired.once first_found second_found (first_eq ▸ index_found) (second_eq ▸ place_found)
      same

/-- The calls after one call went on. -/
theorem kept_update (found : before.calls id = some call)
    (calls_eq : after.calls = Function.update before.calls id (some { call with phase := phase }))
    (onward : phase.Unsent → call.phase.Unsent)
    (other : Nat) (known : Call) (known_found : before.calls other = some known) :
    ∃ later, after.calls other = some later ∧ later.frame = known.frame ∧
      later.endpoint = known.endpoint ∧ (later.phase.Unsent → known.phase.Unsent) := by
  rw [calls_eq]
  by_cases same : other = id
  · subst same
    obtain rfl : call = known := Option.some.inj (found.symm.trans known_found)
    exact ⟨_, Function.update_self other _ _, rfl, rfl, onward⟩
  · exact ⟨known, (Function.update_of_ne same _ _).trans known_found, rfl, rfl, fun waits => waits⟩

theorem unstarted_update (found : before.calls id = some call)
    (calls_eq : after.calls = Function.update before.calls id (some { call with phase := phase }))
    (started_eq : after.started = before.started)
    (unstarted : ∀ id, before.started ≤ id → before.calls id = none) (other : Nat)
    (above : after.started ≤ other) : after.calls other = none := by
  have nothing := unstarted other (started_eq ▸ above)
  have ne : other ≠ id := by
    rintro rfl
    simp [nothing] at found
  rw [calls_eq, Function.update_of_ne ne, nothing]

/-- A call goes on to a phase in which it does not send. -/
theorem quiet_of_update (found : before.calls id = some call)
    (silent : ∀ fd offset, phase ≠ .send fd offset) (onward : phase.Unsent → call.phase.Unsent)
    (calls_eq : after.calls = Function.update before.calls id (some { call with phase := phase }))
    (started_eq : after.started = before.started) (opened_eq : after.opened = before.opened)
    (fds : ∀ fd number, after.fds fd = some number → before.fds fd = some number)
    (sockets : ∀ number socket, after.sockets number = some socket → ∃ earlier,
      before.sockets number = some earlier ∧ socket.endpoint = earlier.endpoint ∧
        socket.requests = earlier.requests ∧ socket.completed = earlier.completed) :
    Quiet before after where
  opened := opened_eq
  fds := fds
  sockets := sockets
  kept := kept_update found calls_eq onward
  sending := by
    intro other known place offset known_found sends
    rw [calls_eq] at known_found
    by_cases same : other = id
    · subst same
      rw [Function.update_self] at known_found
      obtain rfl := Option.some.inj known_found
      exact absurd sends (silent place offset)
    · rwa [Function.update_of_ne same] at known_found
  unstarted := unstarted_update found calls_eq started_eq

theorem sockets_same (sockets_eq : after.sockets = before.sockets) (place : Nat) (later : Socket)
    (found : after.sockets place = some later) : ∃ earlier,
      before.sockets place = some earlier ∧ later.endpoint = earlier.endpoint ∧
        later.requests = earlier.requests ∧ later.completed = earlier.completed :=
  ⟨later, sockets_eq ▸ found, rfl, rfl, rfl⟩

/-- One connection is written back with the same requests. -/
theorem sockets_update {grown : Socket} (found : before.sockets number = some socket)
    (sockets_eq : after.sockets = Function.update before.sockets number (some grown))
    (endpoint_eq : grown.endpoint = socket.endpoint)
    (requests_eq : grown.requests = socket.requests)
    (completed_eq : grown.completed = socket.completed) (place : Nat) (later : Socket)
    (later_found : after.sockets place = some later) : ∃ earlier,
      before.sockets place = some earlier ∧ later.endpoint = earlier.endpoint ∧
        later.requests = earlier.requests ∧ later.completed = earlier.completed := by
  rw [sockets_eq] at later_found
  by_cases same : place = number
  · subst same
    rw [Function.update_self] at later_found
    obtain rfl := Option.some.inj later_found
    exact ⟨socket, found, endpoint_eq, requests_eq, completed_eq⟩
  · exact ⟨later, (Function.update_of_ne same _ _).symm.trans later_found, rfl, rfl, rfl⟩

theorem fds_closed (place : Fd) (found : Nat)
    (still_open : Function.update before.fds fd none place = some found) :
    before.fds place = some found := by
  by_cases same : place = fd
  · simp [same] at still_open
  · rwa [Function.update_of_ne same] at still_open

/-- The requests of the connection that a call holds: those of before and at the end its own. -/
structure Posts (before : State) (id number : Nat) (call : Call) (earlier : List Posted)
    (socket : Socket) : Prop where
  requests : socket.requests = earlier ++ [⟨id, call.frame⟩]
  endpoint : socket.endpoint = call.endpoint
  known : ∀ (index : Nat) request, socket.requests[index]? = some request →
    (∃ old, before.sockets number = some old ∧ old.endpoint = socket.endpoint ∧
      old.requests[index]? = some request) ∨
    index = earlier.length ∧ request = ⟨id, call.frame⟩ ∧ call.phase.Unsent

/-- Every request afterwards was there before or is the first one of the call. -/
theorem Posts.positions {earlier : List Posted} (posts : Posts before id number call earlier socket)
    (sockets_eq : after.sockets = Function.update before.sockets number (some socket))
    {place : Nat} {found : Socket} {index : Nat} {request : Posted}
    (found_at : after.sockets place = some found)
    (request_at : found.requests[index]? = some request) :
    (∃ old, before.sockets place = some old ∧ old.endpoint = found.endpoint ∧
      old.requests[index]? = some request) ∨
    place = number ∧ index = earlier.length ∧ request = ⟨id, call.frame⟩ ∧ call.phase.Unsent ∧
      found.endpoint = call.endpoint := by
  rw [sockets_eq] at found_at
  by_cases same : place = number
  · subst same
    rw [Function.update_self] at found_at
    obtain rfl := Option.some.inj found_at
    rcases posts.known index request request_at with old | ⟨index_eq, request_eq, unsent⟩
    · exact Or.inl old
    · exact Or.inr ⟨rfl, index_eq, request_eq, unsent, posts.endpoint⟩
  · rw [Function.update_of_ne same] at found_at
    exact Or.inl ⟨found, found_at, rfl, request_at⟩

/-- A call goes on sending on the connection that it holds, or has sent everything. -/
theorem Wired.send (wired : Wired before wires) {earlier : List Posted} {offset : Nat}
    {later : Nat → Bytes} (found : before.calls id = some call)
    (posts : Posts before id number call earlier socket)
    (alone : ∀ other known place offset, other ≠ id → before.calls other = some known →
      known.phase = .send place offset → place ≠ fd ∧ before.fds place ≠ some number)
    (calls_eq : after.calls = Function.update before.calls id (some { call with phase := phase }))
    (progress : socket.completed = earlier.length ∧ phase = .send fd offset ∨
      socket.completed = earlier.length + 1 ∧ call.frame.length ≤ offset ∧
        phase = .recvLength fd [])
    (started_eq : after.started = before.started) (opened_le : before.opened ≤ after.opened)
    (numbered : number < after.opened)
    (fds : ∀ place, place ≠ fd → after.fds place = before.fds place)
    (at_fd : ∀ found, after.fds fd = some found → found = number)
    (sockets_eq : after.sockets = Function.update before.sockets number (some socket))
    (others : ∀ place, place ≠ number → later place = wires place)
    (own : later number = posted earlier ++ call.frame.take offset) :
    Wired after later := by
  have requests_eq := posts.requests
  have sent : ¬ phase.Unsent := by
    rcases progress with ⟨-, rfl⟩ | ⟨-, -, rfl⟩ <;> simp [Phase.Unsent]
  have own_between : posted (socket.requests.take socket.completed) <+: later number ∧
      later number <+: posted socket.requests := by
    rw [requests_eq, own, posted_concat]
    rcases progress with ⟨completed_eq, -⟩ | ⟨completed_eq, whole, -⟩
    · rw [completed_eq, List.take_left]
      exact ⟨List.prefix_append _ _, (List.prefix_append_right_inj _).mpr (List.take_prefix _ _)⟩
    · rw [completed_eq, List.take_of_length_le (by simp), posted_concat,
        List.take_of_length_le whole]
      exact ⟨List.prefix_refl _, List.prefix_refl _⟩
  constructor
  · intro place above
    have ne : place ≠ number := by omega
    rw [others place ne]
    exact wired.fresh (opened_le.trans above)
  · exact unstarted_update found calls_eq started_eq (fun _ => wired.unstarted) _
  · intro place known known_found
    rw [sockets_eq] at known_found
    by_cases same : place = number
    · subst same
      rw [Function.update_self] at known_found
      obtain rfl := Option.some.inj known_found
      rw [requests_eq, List.length_append, List.length_singleton]
      rcases progress with ⟨completed_eq, -⟩ | ⟨completed_eq, -⟩ <;> omega
    · rw [Function.update_of_ne same] at known_found
      exact wired.pending known_found
  · intro place known known_found
    rw [sockets_eq] at known_found
    by_cases same : place = number
    · subst same
      rw [Function.update_self] at known_found
      exact Option.some.inj known_found ▸ own_between
    · rw [Function.update_of_ne same] at known_found
      rw [others place same]
      exact wired.between known_found
  · intro other known place start found_number found_socket known_found sends fd_found socket_found
    rw [calls_eq] at known_found
    rw [sockets_eq] at socket_found
    by_cases same : other = id
    · subst same
      rw [Function.update_self] at known_found
      obtain rfl := Option.some.inj known_found
      rcases progress with ⟨completed_eq, phase_eq⟩ | ⟨-, -, phase_eq⟩
      · obtain ⟨rfl, rfl⟩ := Phase.send.inj (phase_eq.symm.trans sends)
        obtain rfl := at_fd found_number fd_found
        rw [Function.update_self] at socket_found
        obtain rfl := Option.some.inj socket_found
        rw [own, requests_eq, completed_eq, List.take_left]
      · cases phase_eq.symm.trans sends
    · rw [Function.update_of_ne same] at known_found
      obtain ⟨place_ne, elsewhere⟩ := alone other known place start same known_found sends
      rw [fds place place_ne] at fd_found
      have ne : found_number ≠ number := by
        rintro rfl
        exact elsewhere fd_found
      rw [Function.update_of_ne ne] at socket_found
      rw [others found_number ne]
      exact wired.sending known_found sends fd_found socket_found
  · intro place known index request known_found request_found
    rcases posts.positions sockets_eq known_found request_found with
      ⟨old, old_found, endpoint_eq, old_request⟩ | ⟨-, -, rfl, -, endpoint_eq⟩
    · obtain ⟨caller, caller_found, frame_eq, same_endpoint, caller_sent⟩ :=
        wired.callers old_found old_request
      obtain ⟨later, later_found, later_frame, later_endpoint, unsent⟩ :=
        kept_update found calls_eq (fun waits => absurd waits sent) _ _ caller_found
      exact ⟨later, later_found, later_frame.trans frame_eq,
        later_endpoint.trans (same_endpoint.trans endpoint_eq), fun waits =>
          caller_sent (unsent waits)⟩
    · exact ⟨{ call with phase := phase }, by rw [calls_eq, Function.update_self], rfl,
        endpoint_eq.symm, sent⟩
  · intro left right first second index place request other left_found right_found index_found
      place_found same
    rcases posts.positions sockets_eq left_found index_found with
        ⟨old, old_found, -, old_request⟩ | ⟨rfl, rfl, rfl, unsent, -⟩ <;>
      rcases posts.positions sockets_eq right_found place_found with
        ⟨twin, twin_found, -, twin_request⟩ | ⟨rfl, rfl, rfl, unsent, -⟩
    · exact wired.once old_found twin_found old_request twin_request same
    · obtain ⟨caller, caller_found, -, -, caller_sent⟩ := wired.callers old_found old_request
      rw [same] at caller_found
      obtain rfl : call = caller := Option.some.inj (found.symm.trans caller_found)
      exact absurd unsent caller_sent
    · obtain ⟨caller, caller_found, -, -, caller_sent⟩ := wired.callers twin_found twin_request
      rw [← same] at caller_found
      obtain rfl : call = caller := Option.some.inj (found.symm.trans caller_found)
      exact absurd unsent caller_sent
    · exact ⟨rfl, rfl⟩

end Steps

/-! ## Moves -/

section Moves

variable {property : Socket → Prop} {strerror : Nat → Bytes} {state next : State}
  {wires : Nat → Bytes} {id : Nat} {call : Call}

/-- The connection of a call that sends. -/
theorem Paired.sending (paired : Paired property state) {fd : Fd} {offset : Nat}
    (found : state.calls id = some call) (sends : call.phase = .send fd offset) :
    ∃ number socket, state.fds fd = some number ∧ state.sockets number = some socket ∧
      endpointKey socket.endpoint = endpointKey call.endpoint ∧
      Served socket id call.frame [] false := by
  have ok := paired.calls found
  simp only [PhaseOk, sends] at ok
  exact ok

/-- Nobody else sends on a connection that no other call holds. -/
theorem Paired.alone (paired : Paired property state) {fd : Fd} {number : Nat}
    (only : ∀ found, state.fds fd = some found → found = number)
    (unheld : ∀ socket other, state.sockets number = some socket → socket.holder = some other →
      other = id) (other : Nat) (known : Call) (place : Fd) (offset : Nat) (ne : other ≠ id)
    (found : state.calls other = some known) (sends : known.phase = .send place offset) :
    place ≠ fd ∧ state.fds place ≠ some number := by
  obtain ⟨held, socket, place_found, socket_found, -, served⟩ := paired.sending found sends
  have elsewhere : state.fds place ≠ some number := by
    intro same
    obtain rfl : held = number := Option.some.inj (place_found.symm.trans same)
    exact ne (unheld socket other socket_found served.holder)
  refine ⟨?_, elsewhere⟩
  rintro rfl
  exact elsewhere (only held place_found ▸ place_found)

/-- `SendAll` on the connection of the call, with what the kernel took so far. -/
theorem Wired.continueSend (wired : Wired state wires) {middle : State} {fd : Fd} {number : Nat}
    {socket : Socket} {earlier : List Posted} {offset : Nat} {later : Nat → Bytes}
    (found : state.calls id = some call) (calls_eq : middle.calls = state.calls)
    (sockets_eq : middle.sockets = state.sockets) (started_eq : middle.started = state.started)
    (opened_le : state.opened ≤ middle.opened) (numbered : number < middle.opened)
    (fds : ∀ place, place ≠ fd → middle.fds place = state.fds place)
    (at_fd : ∀ found, middle.fds fd = some found → found = number)
    (posts : Posts state id number call earlier socket)
    (completed_eq : socket.completed = earlier.length)
    (alone : ∀ other known place offset, other ≠ id → state.calls other = some known →
      known.phase = .send place offset → place ≠ fd ∧ state.fds place ≠ some number)
    (others : ∀ place, place ≠ number → later place = wires place)
    (own : later number = posted earlier ++ call.frame.take offset) :
    Wired (continueSend middle id call fd number socket offset) later := by
  simp only [TcpClientTransport.continueSend]
  split_ifs with more
  · exact wired.send found posts alone (by rw [← calls_eq]; rfl) (Or.inl ⟨completed_eq, rfl⟩)
      started_eq opened_le numbered fds at_fd (by rw [← sockets_eq]; rfl) others own
  · have sent : Posts state id number call earlier
        { socket with completed := socket.completed + 1 } :=
      ⟨posts.requests, posts.endpoint, posts.known⟩
    exact wired.send found sent alone (by rw [← calls_eq]; rfl)
      (Or.inr ⟨by rw [completed_eq], by omega, rfl⟩) started_eq opened_le numbered fds at_fd
      (by rw [← sockets_eq]; rfl) others own

/-- The requests of a connection all of which the kernel took. -/
theorem Wired.whole (wired : Wired state wires) {number : Nat} {socket : Socket}
    (found : state.sockets number = some socket)
    (completed_eq : socket.completed = socket.requests.length) :
    wires number = posted socket.requests := by
  obtain ⟨lower, upper⟩ := wired.between found
  rw [completed_eq, List.take_length] at lower
  exact List.IsPrefix.eq_of_length_le upper lower.length_le

/-- A call puts its request behind those of a connection. -/
theorem posts_append {number : Nat} {socket : Socket}
    (old : state.sockets number = some socket ∨ socket.requests = [])
    (endpoint_eq : socket.endpoint = call.endpoint) (waits : call.phase.Unsent) :
    Posts state id number call socket.requests { socket with
      holder := some id
      requests := socket.requests ++ [⟨id, call.frame⟩] } where
  requests := rfl
  endpoint := endpoint_eq
  known := by
    intro index request found
    simp only at found
    by_cases earlier : index < socket.requests.length
    · rw [List.getElem?_append_left earlier] at found
      rcases old with old | nothing
      · exact Or.inl ⟨socket, old, rfl, found⟩
      · simp [nothing] at earlier
    · rw [List.getElem?_append_right (by omega), List.getElem?_singleton] at found
      split_ifs at found with last
      exact Or.inr ⟨by omega, (Option.some.inj found).symm, waits⟩

theorem Wired.borrowConnection (paired : Paired property state) (wired : Wired state wires)
    (found : state.calls id = some call) (waits : call.phase.Unsent) {outcome : BorrowOutcome}
    (moved : borrowConnection state id call outcome = some next) : Wired next wires := by
  simp only [TcpClientTransport.borrowConnection] at moved
  cases last : (state.idlePool (endpointKey call.endpoint)).getLast? with
  | none =>
      simp only [last, Option.some.injEq] at moved
      subst moved
      exact wired.quiet (quiet_of_update found (by simp) (fun _ => waits) rfl rfl rfl
        (fun _ _ found => found) (sockets_same rfl))
  | some fd =>
      obtain ⟨number, socket, fd_found, socket_found, key_eq, idle⟩ :=
        paired.idle (List.mem_of_getLast? last)
      have closes : Wired ((({ state with
          idlePool := Function.update state.idlePool (endpointKey call.endpoint)
            (state.idlePool (endpointKey call.endpoint)).dropLast } : State).closeSocket
              fd).setPhase id call .connect) wires :=
        wired.quiet (quiet_of_update found (by simp) (fun _ => waits) rfl rfl rfl fds_closed
          (sockets_same rfl))
      cases outcome with
      | blockingModeFailed =>
          simp only [last, Option.some.injEq] at moved
          exact moved ▸ closes
      | configureFailed =>
          simp only [last, Option.some.injEq] at moved
          exact moved ▸ closes
      | ready =>
          simp only [last, fd_found, socket_found, Option.some.injEq] at moved
          subst moved
          have only : ∀ other, state.fds fd = some other → other = number :=
            fun other other_found => Option.some.inj (other_found.symm.trans fd_found)
          refine wired.continueSend found rfl rfl rfl le_rfl (paired.numbered fd_found)
            (fun _ _ => rfl) only (posts_append (Or.inl socket_found)
              (endpointKey_injective key_eq) waits) idle.completed (paired.alone only ?_)
            (fun _ _ => rfl) ?_
          · intro known other known_found held
            obtain rfl : socket = known := Option.some.inj (socket_found.symm.trans known_found)
            simp [idle.holder] at held
          · simpa using wired.whole socket_found idle.completed

theorem Wired.connectTo (paired : Paired property state) (wired : Wired state wires)
    (found : state.calls id = some call) (waits : call.phase.Unsent) {outcome : ConnectOutcome}
    (moved : connectTo strerror state id call outcome = some next) : Wired next wires := by
  match outcome with
  | .socketFailed _ | .invalidHost | .receiveTimeoutFailed _ | .sendTimeoutFailed _
  | .connectFailed _ =>
      obtain rfl := Option.some.inj moved
      exact wired.quiet (quiet_of_update found (by simp) (fun _ => waits) rfl rfl rfl
        (fun _ _ found => found) (sockets_same rfl))
  | .connected fd =>
      simp only [TcpClientTransport.connectTo] at moved
      split_ifs at moved with open_already
      simp only [not_or, not_not] at open_already
      obtain rfl := Option.some.inj moved
      have unused : state.sockets state.opened = none := paired.unopened le_rfl
      refine wired.continueSend found rfl rfl rfl (Nat.le_succ _) (Nat.lt_succ_self _)
        (fun place ne => Function.update_of_ne ne _ _) (by simp)
        (posts_append (Or.inr rfl) rfl waits) rfl
        (paired.alone (by simp [open_already.2]) (by simp [unused])) (fun _ _ => rfl) ?_
      simpa [posted] using wired.fresh le_rfl

/-- A call closes its connection and returns an error. -/
theorem Wired.fail (wired : Wired state wires) (found : state.calls id = some call) (fd : Fd)
    (error : RpcError) : Wired (fail state id call fd error) wires :=
  wired.quiet (quiet_of_update found (by simp) (by simp [Phase.Unsent])
        rfl rfl rfl fds_closed (sockets_same rfl))

theorem carry_nil (wires : Nat → Bytes) (number : Nat) :
    carry wires (some (number, [])) = wires := by
  simp [carry]

/-- One iteration of `SendAll`. -/
theorem Wired.sendStep (paired : Paired property state) (wired : Wired state wires)
    (found : state.calls id = some call) {fd : Fd} {offset number : Nat} {socket : Socket}
    (sends : call.phase = .send fd offset) (fd_found : state.fds fd = some number)
    (socket_found : state.sockets number = some socket) (result : SendResult) :
    Wired (sendStep strerror state id call fd number socket offset result)
      (carry wires (taken state (.move id (.send result)))) := by
  obtain ⟨held, known, held_found, known_found, key_eq, served⟩ := paired.sending found sends
  obtain rfl : number = held := Option.some.inj (fd_found.symm.trans held_found)
  obtain rfl : socket = known := Option.some.inj (socket_found.symm.trans known_found)
  obtain ⟨earlier, -, requests_eq, completed_eq, -⟩ := served.answered
  have completed_eq : socket.completed = earlier.length := by simpa using completed_eq
  have now : wires number = posted earlier ++ call.frame.take offset := by
    rw [wired.sending found sends fd_found socket_found, requests_eq, completed_eq, List.take_left]
  have only : ∀ other, state.fds fd = some other → other = number :=
    fun other other_found => Option.some.inj (other_found.symm.trans fd_found)
  have goes_on : ∀ (count : Nat) (later : Nat → Bytes),
      (∀ place, place ≠ number → later place = wires place) →
      later number = posted earlier ++ call.frame.take (offset + count) →
      Wired (TcpClientTransport.continueSend state id call fd number socket (offset + count))
        later := by
    intro count later others own
    have posts : Posts state id number call earlier socket :=
      ⟨requests_eq, endpointKey_injective key_eq, fun index request request_found =>
        Or.inl ⟨socket, socket_found, rfl, request_found⟩⟩
    refine wired.continueSend found rfl rfl rfl le_rfl (paired.numbered fd_found) (fun _ _ => rfl)
      only posts completed_eq (paired.alone only ?_) others own
    · intro other_socket other other_found held
      obtain rfl : socket = other_socket := Option.some.inj (socket_found.symm.trans other_found)
      exact Option.some.inj (held.symm.trans served.holder)
  match result with
  | .written 0 =>
      have nothing : taken state (.move id (.send (.written 0))) = some (number, []) := by
        simp [taken, found, sends, fd_found]
      rw [nothing, carry_nil]
      exact wired.fail found fd _
  | .written (count + 1) =>
      have some_bytes : taken state (.move id (.send (.written (count + 1)))) =
          some (number, (call.frame.drop offset).take (count + 1)) := by
        simp [taken, found, sends, fd_found]
      rw [some_bytes]
      refine goes_on (count + 1) _ (fun place ne => Function.update_of_ne ne _ _) ?_
      rw [carry, Function.update_self, now, List.append_assoc, ← List.take_add]
  | .eintr => exact goes_on 0 wires (fun _ _ => rfl) now
  | .eagain => exact wired.fail found fd _
  | .error errno => exact wired.fail found fd _

theorem Wired.recvLengthStep (wired : Wired state wires) (found : state.calls id = some call)
    {fd : Fd} {number : Nat} {socket : Socket} (socket_found : state.sockets number = some socket)
    (buffer : Bytes) (result : RecvResult) :
    Wired (recvLengthStep strerror state id call fd number socket buffer result) wires := by
  simp only [TcpClientTransport.recvLengthStep]
  split
  · exact wired.fail found fd _
  split_ifs
  · exact wired.quiet (quiet_of_update found (by simp) (by simp [Phase.Unsent])
        rfl rfl rfl (fun _ _ found => found)
      (sockets_update socket_found rfl rfl rfl rfl))
  split
  · exact wired.quiet (quiet_of_update found (by simp) (by simp [Phase.Unsent])
        rfl rfl rfl fds_closed
      (sockets_update socket_found rfl rfl rfl rfl))
  · exact wired.quiet (quiet_of_update found (by simp) (by simp [Phase.Unsent])
        rfl rfl rfl (fun _ _ found => found)
      (sockets_update socket_found rfl rfl rfl rfl))

theorem Wired.recvBodyStep (wired : Wired state wires) (found : state.calls id = some call)
    {fd : Fd} {number : Nat} {socket : Socket} (socket_found : state.sockets number = some socket)
    (lengthField : Bytes) (size : Nat) (buffer : Bytes) (result : RecvResult) :
    Wired (recvBodyStep strerror state id call fd number socket lengthField size buffer result)
      wires := by
  simp only [TcpClientTransport.recvBodyStep]
  split
  · exact wired.fail found fd _
  split_ifs
  all_goals
    exact wired.quiet (quiet_of_update found (by simp) (by simp [Phase.Unsent])
        rfl rfl rfl (fun _ _ found => found)
      (sockets_update socket_found rfl rfl rfl rfl))

theorem Wired.returnConnection (wired : Wired state wires) (found : state.calls id = some call)
    {fd : Fd} {number : Nat} {socket : Socket} (socket_found : state.sockets number = some socket)
    (frame : Bytes) :
    Wired (returnConnection state id call fd number socket frame) wires := by
  simp only [TcpClientTransport.returnConnection]
  split_ifs
  · exact wired.quiet (quiet_of_update found (by simp) (by simp [Phase.Unsent])
        rfl rfl rfl fds_closed (sockets_same rfl))
  · exact wired.quiet (quiet_of_update found (by simp) (by simp [Phase.Unsent])
        rfl rfl rfl (fun _ _ found => found)
      (sockets_update socket_found rfl rfl rfl rfl))

/-- A move of a call other than sending hands nothing over. -/
theorem taken_move_of_silent (silent : ∀ fd offset, call.phase ≠ .send fd offset)
    (found : state.calls id = some call) (outcome : Outcome) :
    taken state (.move id outcome) = none := by
  match outcome with
  | .send (.written count) =>
      simp only [taken, found, Option.bind_eq_bind, Option.bind_some]
  | .borrow _ | .connect _ | .send .eintr | .send .eagain | .send (.error _) | .recv _
  | .giveBack => rfl

theorem Wired.move (paired : Paired property state) (wired : Wired state wires)
    (found : state.calls id = some call) {outcome : Outcome}
    (moved : move strerror state id call call.phase outcome = some next) :
    Wired next (carry wires (taken state (.move id outcome))) := by
  have silent_move : (∀ fd offset, call.phase ≠ .send fd offset) → Wired next wires →
      Wired next (carry wires (taken state (.move id outcome))) := by
    intro silent kept
    rwa [taken_move_of_silent silent found]
  obtain ⟨endpoint, frame, phase⟩ := call
  simp only [TcpClientTransport.move, Option.bind_eq_bind, Option.pure_def] at moved
  split at moved
  case h_1 => exact silent_move (by simp) (wired.borrowConnection paired found trivial moved)
  case h_2 => exact silent_move (by simp) (wired.connectTo paired found trivial moved)
  case h_7 => cases moved
  all_goals simp only [Option.bind_eq_some_iff, Option.some.injEq, Prod.exists] at moved
  case h_3 fd offset result =>
      obtain ⟨number, socket, at_fd, rfl⟩ := moved
      obtain ⟨fd_found, socket_found⟩ := socketAt_eq_some.mp at_fd
      exact wired.sendStep paired found rfl fd_found socket_found result
  case h_4 fd buffer outcome =>
      obtain ⟨number, socket, at_fd, result, -, rfl⟩ := moved
      exact silent_move (by simp)
        (wired.recvLengthStep found (socketAt_eq_some.mp at_fd).2 buffer result)
  case h_5 fd lengthField size buffer outcome =>
      obtain ⟨number, socket, at_fd, result, -, rfl⟩ := moved
      exact silent_move (by simp)
        (wired.recvBodyStep found (socketAt_eq_some.mp at_fd).2 lengthField size buffer result)
  case h_6 fd response =>
      obtain ⟨number, socket, at_fd, rfl⟩ := moved
      exact silent_move (by simp)
        (wired.returnConnection found (socketAt_eq_some.mp at_fd).2 response)

theorem quiet_start (wired : Wired state wires) (endpoint : Endpoint) (frame : Bytes) :
    Quiet state { state with
      calls := Function.update state.calls state.started (some ⟨endpoint, frame, .borrow⟩)
      started := state.started + 1 } where
  opened := rfl
  fds _ _ found := found
  sockets := sockets_same rfl
  kept := by
    intro other known known_found
    have ne : other ≠ state.started := by
      rintro rfl
      simp [wired.unstarted le_rfl] at known_found
    exact ⟨known, (Function.update_of_ne ne _ _).trans known_found, rfl, rfl, fun waits => waits⟩
  sending := by
    intro other known fd offset known_found sends
    by_cases same : other = state.started
    · subst same
      simp only [Function.update_self, Option.some.injEq] at known_found
      subst known_found
      cases sends
    · exact (Function.update_of_ne same _ _).symm.trans known_found
  unstarted := by
    intro unstarted other above
    have ne : other ≠ state.started := by
      simp only at above
      omega
    simp only [Function.update_of_ne ne]
    exact unstarted other (by simp only at above; omega)

theorem Wired.step (paired : Paired property state) (wired : Wired state wires) {action : Action}
    (moved : step strerror state action = some next) :
    Wired next (carry wires (taken state action)) := by
  cases action with
  | start endpoint frame =>
      obtain rfl := Option.some.inj moved
      exact wired.quiet (quiet_start wired endpoint frame)
  | move id outcome =>
      simp only [TcpClientTransport.step, Option.bind_eq_bind, Option.bind_eq_some_iff] at moved
      obtain ⟨call, found, moved⟩ := moved
      exact wired.move paired found moved
  | peerWrite fd bytes =>
      simp only [TcpClientTransport.step, Option.bind_eq_bind, Option.bind_eq_some_iff,
        Option.pure_def, Option.some.injEq, Prod.exists] at moved
      obtain ⟨number, socket, at_fd, rfl⟩ := moved
      exact wired.quiet
        { opened := rfl
          fds := fun _ _ found => found
          sockets := sockets_update (socketAt_eq_some.mp at_fd).2 rfl rfl rfl rfl
          kept := fun _ call found => ⟨call, found, rfl, rfl, fun waits => waits⟩
          sending := fun _ _ _ _ found _ => found
          unstarted := fun unstarted => unstarted }

end Moves

/-! ## Connections along a move -/

section Connections

variable {property : Socket → Prop} {strerror : Nat → Bytes} {before after state next : State}
  {id number : Nat} {call : Call} {fd : Fd} {socket : Socket}

/-- No peer wrote, and every connection is still there, with its endpoint. -/
structure Persists (before after : State) : Prop where
  kept : ∀ {number socket}, before.sockets number = some socket → ∃ later,
    after.sockets number = some later ∧ later.endpoint = socket.endpoint ∧
      later.written = socket.written
  new : ∀ {number later}, before.sockets number = none → after.sockets number = some later →
    later.written = []

theorem persists_of_eq (sockets_eq : after.sockets = before.sockets) : Persists before after where
  kept found := ⟨_, sockets_eq ▸ found, rfl, rfl⟩
  new absent found := by simp [sockets_eq, absent] at found

/-- One connection is written back. -/
theorem persists_update {grown : Socket}
    (sockets_eq : after.sockets = Function.update before.sockets number (some grown))
    (kept : ∀ socket, before.sockets number = some socket →
      grown.endpoint = socket.endpoint ∧ grown.written = socket.written)
    (new : before.sockets number = none → grown.written = []) : Persists before after where
  kept := by
    intro place known known_found
    rw [sockets_eq]
    by_cases same : place = number
    · subst same
      exact ⟨grown, Function.update_self place _ _, kept known known_found⟩
    · exact ⟨known, (Function.update_of_ne same _ _).trans known_found, rfl, rfl⟩
  new := by
    intro place later absent later_found
    rw [sockets_eq] at later_found
    by_cases same : place = number
    · subst same
      rw [Function.update_self] at later_found
      exact Option.some.inj later_found ▸ new absent
    · simp [Function.update_of_ne same, absent] at later_found

theorem persists_held {grown : Socket} (found : before.sockets number = some socket)
    (sockets_eq : after.sockets = Function.update before.sockets number (some grown))
    (endpoint_eq : grown.endpoint = socket.endpoint) (written_eq : grown.written = socket.written) :
    Persists before after := by
  apply persists_update sockets_eq
  · intro known known_found
    obtain rfl : socket = known := Option.some.inj (found.symm.trans known_found)
    exact ⟨endpoint_eq, written_eq⟩
  · simp [found]

theorem persists_continueSend {middle : State} (sockets_eq : middle.sockets = state.sockets)
    (kept : ∀ known, state.sockets number = some known →
      socket.endpoint = known.endpoint ∧ socket.written = known.written)
    (new : state.sockets number = none → socket.written = []) (offset : Nat) :
    Persists state (continueSend middle id call fd number socket offset) := by
  simp only [continueSend]
  split_ifs
  · refine persists_update ?_ kept new
    rw [← sockets_eq]
    rfl
  · have sockets_later : ((middle.setSocket number
        { socket with completed := socket.completed + 1 }).setPhase id call
          (.recvLength fd [])).sockets = Function.update state.sockets number
            (some { socket with completed := socket.completed + 1 }) := by
      rw [← sockets_eq]
      rfl
    exact persists_update sockets_later kept new

theorem persists_borrowConnection {outcome : BorrowOutcome}
    (moved : borrowConnection state id call outcome = some next) : Persists state next := by
  simp only [borrowConnection] at moved
  split at moved
  · obtain rfl := Option.some.inj moved
    exact persists_of_eq rfl
  cases outcome with
  | blockingModeFailed =>
      obtain rfl := Option.some.inj moved
      exact persists_of_eq rfl
  | configureFailed =>
      obtain rfl := Option.some.inj moved
      exact persists_of_eq rfl
  | ready =>
      simp only at moved
      split at moved
      · cases moved
      split at moved
      · cases moved
      · rename_i found
        obtain rfl := Option.some.inj moved
        refine persists_continueSend (by rfl) ?_ ?_ 0
        · intro known known_found
          cases found.symm.trans known_found
          exact ⟨rfl, rfl⟩
        · simp [found]

theorem persists_connectTo (paired : Paired property state) {outcome : ConnectOutcome}
    (moved : connectTo strerror state id call outcome = some next) : Persists state next := by
  match outcome with
  | .socketFailed _ | .invalidHost | .receiveTimeoutFailed _ | .sendTimeoutFailed _
  | .connectFailed _ =>
      obtain rfl := Option.some.inj moved
      exact persists_of_eq rfl
  | .connected fd =>
      simp only [connectTo] at moved
      split_ifs at moved
      obtain rfl := Option.some.inj moved
      have unused : state.sockets state.opened = none := paired.unopened le_rfl
      refine persists_continueSend (by rfl) ?_ ?_ 0
      · simp [unused]
      · exact fun _ => rfl

theorem persists_move (paired : Paired property state) {phase : Phase} {outcome : Outcome}
    (moved : move strerror state id call phase outcome = some next) : Persists state next := by
  simp only [move, Option.bind_eq_bind, Option.pure_def] at moved
  split at moved
  case h_1 => exact persists_borrowConnection moved
  case h_2 => exact persists_connectTo paired moved
  case h_7 => cases moved
  all_goals simp only [Option.bind_eq_some_iff, Option.some.injEq, Prod.exists] at moved
  case h_3 fd offset result =>
      obtain ⟨number, socket, at_fd, rfl⟩ := moved
      have found := (socketAt_eq_some.mp at_fd).2
      simp only [sendStep]
      split
      · exact persists_of_eq rfl
      · refine persists_continueSend (by rfl) ?_ (by simp [found]) _
        intro known known_found
        cases found.symm.trans known_found
        exact ⟨rfl, rfl⟩
  case h_4 fd buffer outcome =>
      obtain ⟨number, socket, at_fd, result, -, rfl⟩ := moved
      have found := (socketAt_eq_some.mp at_fd).2
      simp only [recvLengthStep]
      split
      · exact persists_of_eq rfl
      split_ifs
      · exact persists_held found rfl rfl rfl
      split <;> exact persists_held found rfl rfl rfl
  case h_5 fd lengthField size buffer outcome =>
      obtain ⟨number, socket, at_fd, result, -, rfl⟩ := moved
      have found := (socketAt_eq_some.mp at_fd).2
      simp only [recvBodyStep]
      split
      · exact persists_of_eq rfl
      split_ifs <;> exact persists_held found rfl rfl rfl
  case h_6 fd response =>
      obtain ⟨number, socket, at_fd, rfl⟩ := moved
      have found := (socketAt_eq_some.mp at_fd).2
      simp only [returnConnection]
      split_ifs
      · exact persists_of_eq rfl
      · exact persists_held found rfl rfl rfl

end Connections

/-! ## Runs -/

/-- The states of all runs of a transport, with the bytes that the kernel took on each connection.
The peers write whatever they like. -/
inductive Carried (strerror : Nat → Bytes) : State → (Nat → Bytes) → Prop where
  | initial : Carried strerror {} fun _ => []
  | step {state next : State} {wires : Nat → Bytes} (action : Action)
      (before : Carried strerror state wires) (moved : step strerror state action = some next) :
      Carried strerror next (carry wires (taken state action))

theorem stable_true : Stable fun _ => True :=
  ⟨fun _ _ => trivial, fun _ _ _ _ _ => trivial⟩

theorem peersKeep_true (state : State) (action : Action) :
    PeersKeep (fun _ => True) state action := by
  cases action <;> simp [PeersKeep]

theorem wired_of_carried {strerror : Nat → Bytes} {state : State} {wires : Nat → Bytes}
    (run : Carried strerror state wires) : Paired (fun _ => True) state ∧ Wired state wires := by
  induction run with
  | initial => exact ⟨paired_initial _, wired_initial⟩
  | step action before moved ih =>
      exact ⟨ih.1.step stable_true (peersKeep_true _ action) moved, ih.2.step ih.1 moved⟩

/-- Whatever calls run at the same time and however they fail, what the kernel takes on a connection
is whole requests in their order and then a part of at most one more; each belongs to a call to the
endpoint of the connection, and no call has a request at two places. -/
theorem requests_never_mix (strerror : Nat → Bytes) {state : State} {wires : Nat → Bytes}
    (run : Carried strerror state wires) :
    (∀ number socket, state.sockets number = some socket →
      (∃ part, wires number = posted (socket.requests.take socket.completed) ++ part ∧
        (socket.requests.drop socket.completed = [] ∧ part = [] ∨
          ∃ request, socket.requests.drop socket.completed = [request] ∧
            part <+: request.frame)) ∧
      ∀ request ∈ socket.requests, ∃ call, state.calls request.call = some call ∧
        call.frame = request.frame ∧ call.endpoint = socket.endpoint) ∧
    ∀ (left right : Nat) (first second : Socket) (index place : Nat) (request other : Posted),
      state.sockets left = some first → state.sockets right = some second →
      first.requests[index]? = some request → second.requests[place]? = some other →
      request.call = other.call → left = right ∧ index = place := by
  obtain ⟨-, wired⟩ := wired_of_carried run
  refine ⟨?_, fun _ _ _ _ _ _ _ _ => wired.once⟩
  intro number socket found
  constructor
  · obtain ⟨⟨part, wire_eq⟩, upper⟩ := wired.between found
    refine ⟨part, wire_eq.symm, ?_⟩
    have whole : posted socket.requests = posted (socket.requests.take socket.completed) ++
        posted (socket.requests.drop socket.completed) := by
      rw [posted, posted, posted, ← List.flatMap_append, List.take_append_drop]
    rw [whole, ← wire_eq, List.prefix_append_right_inj] at upper
    have few : (socket.requests.drop socket.completed).length ≤ 1 := by
      have := wired.pending found
      rw [List.length_drop]
      omega
    rcases Nat.le_one_iff_eq_zero_or_eq_one.mp few with none_left | one_left
    · have nothing := List.eq_nil_of_length_eq_zero none_left
      refine Or.inl ⟨nothing, ?_⟩
      simpa [nothing, posted] using upper
    · obtain ⟨request, last⟩ := List.length_eq_one_iff.mp one_left
      refine Or.inr ⟨request, last, ?_⟩
      simpa [last, posted] using upper
  · intro request member
    obtain ⟨index, request_found⟩ := List.getElem?_of_mem member
    obtain ⟨call, call_found, frame_eq, endpoint_eq, -⟩ := wired.callers found request_found
    exact ⟨call, call_found, frame_eq, endpoint_eq⟩

/-- Two calls at the same time; the first fails after three bytes of its frame. -/
theorem requests_never_mix_after_failure :
    ∃ state wires socket, Carried (fun _ => []) state wires ∧ state.sockets 0 = some socket ∧
      wires 0 = [0, 0, 0] ∧ wires 1 = [0, 0, 0, 4, 0, 0, 0, 9] ∧
      ∃ part, wires 0 = posted (socket.requests.take socket.completed) ++ part ∧
        (socket.requests.drop socket.completed = [] ∧ part = [] ∨
          ∃ request, socket.requests.drop socket.completed = [request] ∧
            part <+: request.frame) := by
  have started := ((Carried.initial : Carried (fun _ => []) {} _).step
    (.start ⟨text "127.0.0.1", 9000⟩ [0, 0, 0, 4, 0, 0, 0, 0]) rfl).step
    (.start ⟨text "127.0.0.1", 9000⟩ [0, 0, 0, 4, 0, 0, 0, 9]) rfl
  have connected := (((started.step (.move 0 (.borrow .ready)) rfl).step
    (.move 1 (.borrow .ready)) rfl).step (.move 0 (.connect (.connected 5))) rfl).step
    (.move 1 (.connect (.connected 6))) rfl
  have sent := ((connected.step (.move 0 (.send (.written 3))) rfl).step
    (.move 1 (.send (.written 8))) rfl).step (.move 0 (.send (.error 104))) rfl
  exact ⟨_, _, _, sent, rfl, by decide, by decide,
    ((requests_never_mix _ sent).1 0 _ rfl).1⟩

end TcpClientTransport

end Hxrpc
