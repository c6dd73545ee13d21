import Hxrpc.Client.Pool

/-!
# Requests and frames keep their places

A connection is idle only after as many frames were read from it as requests were sent on it.  So
whatever the peers do, the frame that a call returns has the place among the frames of its
connection that the request of the call has among the requests, although nothing in the transport
compares the two.
-/

namespace Hxrpc

open BigEndian StreamCut

namespace TcpClientTransport

/-- A property of connections that a call cannot break: it holds of a new connection, and sending
requests and reading answers keeps it. -/
structure Stable (property : Socket → Prop) : Prop where
  new : ∀ endpoint holder, property { endpoint := endpoint, holder := holder }
  grow : ∀ {socket grown}, property socket → socket.completed ≤ socket.requests.length →
    grown.written = socket.written → socket.completed ≤ grown.completed →
    socket.requests <+: grown.requests → property grown

/-- A connection that waits in the pool: every request was sent, and one frame was read for each. -/
structure Idle (socket : Socket) : Prop where
  holder : socket.holder = none
  completed : socket.completed = socket.requests.length
  answered : ∃ answers : List Bytes, answers.length = socket.requests.length ∧
    (∀ answer ∈ answers, IsFrame answer) ∧ socket.written = answers.flatten ++ socket.incoming

/-- A connection that a call holds: its request is the last one, one frame was read for each request
before it, and `part` of what was written behind them. -/
structure Served (socket : Socket) (id : Nat) (frame part : Bytes) (sent : Bool) : Prop where
  holder : socket.holder = some id
  answered : ∃ (earlier : List Posted) (answers : List Bytes),
    socket.requests = earlier ++ [⟨id, frame⟩] ∧
    socket.completed = earlier.length + sent.toNat ∧
    answers.length = earlier.length ∧ (∀ answer ∈ answers, IsFrame answer) ∧
    socket.written = answers.flatten ++ (part ++ socket.incoming)

/-- The call holds the connection behind `fd`. -/
def Holds (state : State) (id : Nat) (call : Call) (fd : Fd) (part : Bytes) (sent : Bool) : Prop :=
  ∃ number socket, state.fds fd = some number ∧ state.sockets number = some socket ∧
    endpointKey socket.endpoint = endpointKey call.endpoint ∧
    Served socket id call.frame part sent

/-- On some connection the frame has the place among the peer's frames that the request of the call
has among the requests. -/
def Answered (state : State) (id : Nat) (frame response : Bytes) : Prop :=
  ∃ (number : Nat) (socket : Socket) (index : Nat), state.sockets number = some socket ∧
    socket.requests[index]? = some ⟨id, frame⟩ ∧
    (frameCutter.split socket.written).items[index]? = some response

/-- What is known of a call at each point of `RoundTrip`. -/
def PhaseOk (state : State) (id : Nat) (call : Call) : Prop :=
  match call.phase with
  | .borrow => True
  | .connect => True
  | .send fd _ => Holds state id call fd [] false
  | .recvLength fd buffer => buffer.length < 4 ∧ Holds state id call fd buffer true
  | .recvBody fd lengthField size buffer =>
      lengthField.length = 4 ∧ decode32 lengthField = size ∧ AdmissibleLength size ∧
        buffer.length < size ∧ Holds state id call fd (lengthField ++ buffer) true
  | .giveBack fd frame => IsFrame frame ∧ Holds state id call fd frame true
  | .finished (.ok response) => Answered state id call.frame response
  | .finished (.error _) => True

/-- The invariant of the transport; every connection has the given property. -/
structure Paired (property : Socket → Prop) (state : State) : Prop where
  numbered : ∀ {fd number}, state.fds fd = some number → number < state.opened
  unopened : ∀ {number}, state.opened ≤ number → state.sockets number = none
  distinct : ∀ {left right number}, state.fds left = some number →
    state.fds right = some number → left = right
  kept : ∀ {number socket}, state.sockets number = some socket → property socket
  idle : ∀ {key fd}, fd ∈ state.idlePool key →
    ∃ number socket, state.fds fd = some number ∧ state.sockets number = some socket ∧
      endpointKey socket.endpoint = key ∧ Idle socket
  nodup : ∀ key, (state.idlePool key).Nodup
  calls : ∀ {id call}, state.calls id = some call → PhaseOk state id call

theorem paired_initial (property : Socket → Prop) : Paired property {} := by
  constructor <;> simp

/-! ## One connection -/

section Socket

variable {socket : Socket} {id : Nat} {frame part : Bytes}

/-- A new connection is idle, as no request was sent on it. -/
theorem idle_new (endpoint : Endpoint) : Idle { endpoint := endpoint, holder := none } :=
  ⟨rfl, rfl, [], rfl, by simp, rfl⟩

/-- An idle connection is handed to a call. -/
theorem Idle.served (idle : Idle socket) (id : Nat) (frame : Bytes) :
    Served { socket with holder := some id, requests := socket.requests ++ [⟨id, frame⟩] }
      id frame [] false := by
  obtain ⟨answers, same_length, frames, written_eq⟩ := idle.answered
  refine ⟨rfl, socket.requests, answers, rfl, ?_, same_length, frames, ?_⟩
  · simpa using idle.completed
  · simpa using written_eq

/-- The kernel took the whole request. -/
theorem Served.complete (served : Served socket id frame [] false) :
    Served { socket with completed := socket.completed + 1 } id frame [] true := by
  obtain ⟨earlier, answers, requests_eq, completed_eq, same_length, frames, written_eq⟩ :=
    served.answered
  exact ⟨served.holder, earlier, answers, requests_eq, by simpa using completed_eq, same_length,
    frames, written_eq⟩

/-- Bytes move from the socket to the buffer of the call. -/
theorem Served.read {sent : Bool} (served : Served socket id frame part sent) (count : Nat) :
    Served { socket with incoming := socket.incoming.drop count } id frame
      (part ++ socket.incoming.take count) sent := by
  obtain ⟨earlier, answers, requests_eq, completed_eq, same_length, frames, written_eq⟩ :=
    served.answered
  refine ⟨served.holder, earlier, answers, requests_eq, completed_eq, same_length, frames, ?_⟩
  simpa using written_eq

/-- The peer writes on a connection that a call holds. -/
theorem Served.write {sent : Bool} (served : Served socket id frame part sent) (bytes : Bytes) :
    Served (socket.write bytes) id frame part sent := by
  obtain ⟨earlier, answers, requests_eq, completed_eq, same_length, frames, written_eq⟩ :=
    served.answered
  refine ⟨served.holder, earlier, answers, requests_eq, completed_eq, same_length, frames, ?_⟩
  simp [Socket.write, written_eq]

/-- The peer writes on an idle connection. -/
theorem Idle.write (idle : Idle socket) (bytes : Bytes) : Idle (socket.write bytes) := by
  obtain ⟨answers, same_length, frames, written_eq⟩ := idle.answered
  refine ⟨idle.holder, idle.completed, answers, same_length, frames, ?_⟩
  simp [Socket.write, written_eq]

theorem Served.bounded {sent : Bool} (served : Served socket id frame part sent) :
    socket.completed ≤ socket.requests.length := by
  obtain ⟨earlier, answers, requests_eq, completed_eq, -⟩ := served.answered
  have := Bool.toNat_le sent
  simp only [requests_eq, completed_eq, List.length_append, List.length_singleton]
  omega

/-- When the call has read a whole frame, the connection is idle, and the frame has the place of the
request of the call. -/
theorem Served.answer (served : Served socket id frame part true) (isFrame : IsFrame part) :
    Idle { socket with holder := none } ∧
      ∃ index : Nat, socket.requests[index]? = some ⟨id, frame⟩ ∧
        (frameCutter.split socket.written).items[index]? = some part := by
  obtain ⟨earlier, answers, requests_eq, completed_eq, same_length, frames, written_eq⟩ :=
    served.answered
  have read_frames : ∀ answer ∈ answers ++ [part], IsFrame answer := by
    intro answer member
    rcases List.mem_append.mp member with member | member
    · exact frames answer member
    · exact List.mem_singleton.mp member ▸ isFrame
  have written_frames : socket.written = (answers ++ [part]).flatten ++ socket.incoming := by
    simp [written_eq]
  refine ⟨⟨rfl, ?_, answers ++ [part], ?_, read_frames, written_frames⟩, earlier.length, ?_, ?_⟩
  · simpa [requests_eq] using completed_eq
  · simp [requests_eq, same_length]
  · simp [requests_eq]
  · rw [written_frames, frameCutter_split_frames read_frames, ← same_length]
    simp

end Socket

/-! ## Steps of one call -/

/-- A step of call `id` on the connection with this number, behind `fd`: nothing else changes, and
the history of the connection only grows. -/
structure Touch (id : Nat) (fd : Fd) (number : Nat) (before after : State) : Prop where
  calls : ∀ other, other ≠ id → after.calls other = before.calls other
  fds : ∀ other, other ≠ fd → after.fds other = before.fds other
  sockets : ∀ other, other ≠ number → after.sockets other = before.sockets other
  grows : ∀ socket, before.sockets number = some socket →
    ∃ grown, after.sockets number = some grown ∧ socket.requests <+: grown.requests ∧
      socket.written <+: grown.written
  own : ∀ other, before.fds fd = some other → other = number
  still : ∀ other, after.fds fd = some other → other = number
  alone : ∀ other, other ≠ fd → before.fds other ≠ some number
  opened : before.opened ≤ after.opened ∧ number < after.opened
  holder : ∀ socket other, before.sockets number = some socket → socket.holder = some other →
    other = id

section Touch

variable {property : Socket → Prop} {before after : State} {id number : Nat} {fd : Fd}

theorem getElem?_eq_some_of_begins {α : Type*} {first second : List α} {index : Nat} {value : α}
    (begins : first <+: second) (found : first[index]? = some value) :
    second[index]? = some value := by
  obtain ⟨tail, rfl⟩ := begins
  rw [List.getElem?_append_left (List.getElem?_eq_some_iff.mp found).1, found]

theorem Answered.touch (touch : Touch id fd number before after) {other : Nat}
    {frame response : Bytes} (answered : Answered before other frame response) :
    Answered after other frame response := by
  obtain ⟨place, socket, index, found, request, answer⟩ := answered
  by_cases same : place = number
  · subst same
    obtain ⟨grown, grown_found, more_requests, more_written⟩ := touch.grows socket found
    obtain ⟨tail, written_eq⟩ := more_written
    refine ⟨place, grown, index, grown_found,
      getElem?_eq_some_of_begins more_requests request, ?_⟩
    rw [← written_eq]
    exact getElem?_eq_some_of_begins (frameCutter.items_prefix_append socket.written tail) answer
  · exact ⟨place, socket, index, (touch.sockets place same).trans found, request, answer⟩

theorem Holds.touch (touch : Touch id fd number before after) {other : Nat}
    (unheld : ∀ socket, before.sockets number = some socket → socket.holder ≠ some other)
    {call : Call} {place : Fd} {part : Bytes} {sent : Bool}
    (holds : Holds before other call place part sent) :
    Holds after other call place part sent := by
  obtain ⟨found, socket, fd_found, socket_found, key_eq, served⟩ := holds
  have ne_number : found ≠ number := by
    rintro rfl
    exact unheld socket socket_found served.holder
  have ne_fd : place ≠ fd := by
    rintro rfl
    exact ne_number (touch.own found fd_found)
  exact ⟨found, socket, (touch.fds place ne_fd).trans fd_found,
    (touch.sockets found ne_number).trans socket_found, key_eq, served⟩

/-- What is known of a call depends on the connection it holds and on the answers of finished
calls. -/
theorem PhaseOk.map {call : Call}
    (holds : ∀ {place part sent}, Holds before id call place part sent →
      Holds after id call place part sent)
    (answered : ∀ {response}, Answered before id call.frame response →
      Answered after id call.frame response)
    (ok : PhaseOk before id call) : PhaseOk after id call := by
  obtain ⟨endpoint, frame, phase⟩ := call
  match phase with
  | .borrow => trivial
  | .connect => trivial
  | .send _ _ => exact holds ok
  | .recvLength _ _ => exact ⟨ok.1, holds ok.2⟩
  | .recvBody _ _ _ _ => exact ⟨ok.1, ok.2.1, ok.2.2.1, ok.2.2.2.1, holds ok.2.2.2.2⟩
  | .giveBack _ _ => exact ⟨ok.1, holds ok.2⟩
  | .finished (.ok _) => exact answered ok
  | .finished (.error _) => trivial

theorem PhaseOk.touch (touch : Touch id fd number before after) {other : Nat}
    (unheld : ∀ socket, before.sockets number = some socket → socket.holder ≠ some other)
    {call : Call} (ok : PhaseOk before other call) :
    PhaseOk after other call :=
  ok.map (Holds.touch touch unheld) (Answered.touch touch)

/-- A step of one call keeps the invariant when it leaves the call, its connection and the pool in
order. -/
theorem Paired.of_touch (paired : Paired property before)
    (touch : Touch id fd number before after)
    (kept : ∀ socket, after.sockets number = some socket → property socket)
    (idle : ∀ key place, place ∈ after.idlePool key →
      place ∈ before.idlePool key ∧ place ≠ fd ∨
        ∃ socket, place = fd ∧ after.fds fd = some number ∧
          after.sockets number = some socket ∧ endpointKey socket.endpoint = key ∧ Idle socket)
    (nodup : ∀ key, (after.idlePool key).Nodup)
    (phase : ∀ call, after.calls id = some call → PhaseOk after id call) :
    Paired property after where
  numbered := by
    intro place found is_found
    by_cases same : place = fd
    · rw [touch.still found (same ▸ is_found)]
      exact touch.opened.2
    · rw [touch.fds place same] at is_found
      exact (paired.numbered is_found).trans_le touch.opened.1
  unopened := by
    intro place above
    have ne : place ≠ number := by
      have := touch.opened.2
      omega
    rw [touch.sockets place ne]
    exact paired.unopened (touch.opened.1.trans above)
  distinct := by
    intro left right found left_found right_found
    by_cases left_same : left = fd <;> by_cases right_same : right = fd
    · rw [left_same, right_same]
    · rw [touch.still found (left_same ▸ left_found), touch.fds right right_same] at right_found
      exact absurd right_found (touch.alone right right_same)
    · rw [touch.still found (right_same ▸ right_found), touch.fds left left_same] at left_found
      exact absurd left_found (touch.alone left left_same)
    · rw [touch.fds left left_same] at left_found
      rw [touch.fds right right_same] at right_found
      exact paired.distinct left_found right_found
  kept := by
    intro place socket found
    by_cases same : place = number
    · exact kept socket (same ▸ found)
    · rw [touch.sockets place same] at found
      exact paired.kept found
  idle := by
    intro key place member
    rcases idle key place member with ⟨member, ne⟩ | ⟨socket, rfl, fd_found, found, key_eq, is_idle⟩
    · obtain ⟨found, socket, fd_found, socket_found, key_eq, is_idle⟩ := paired.idle member
      have ne_number : found ≠ number := by
        rintro rfl
        exact touch.alone place ne fd_found
      exact ⟨found, socket, (touch.fds place ne).trans fd_found,
        (touch.sockets found ne_number).trans socket_found, key_eq, is_idle⟩
    · exact ⟨number, socket, fd_found, found, key_eq, is_idle⟩
  nodup := nodup
  calls := by
    intro other call found
    by_cases same : other = id
    · subst same
      exact phase call found
    · rw [touch.calls other same] at found
      refine (paired.calls found).touch touch fun socket socket_found held => ?_
      exact same (touch.holder socket other socket_found held)

/-- A step that writes back the connection of the call, and may close it. -/
theorem Paired.touch_held (paired : Paired property before) {socket grown : Socket} {call : Call}
    (fd_found : before.fds fd = some number) (found : before.sockets number = some socket)
    (held : ∀ other, socket.holder = some other → other = id)
    (calls_eq : after.calls = Function.update before.calls id (some call))
    (fds_eq : after.fds = before.fds ∨ after.fds = Function.update before.fds fd none)
    (sockets_eq : after.sockets = Function.update before.sockets number (some grown))
    (opened_eq : after.opened = before.opened)
    (more_requests : socket.requests <+: grown.requests)
    (more_written : socket.written <+: grown.written) : Touch id fd number before after where
  calls other ne := by rw [calls_eq, Function.update_of_ne ne]
  fds other ne := by
    rcases fds_eq with same | closed
    · rw [same]
    · rw [closed, Function.update_of_ne ne]
  sockets other ne := by rw [sockets_eq, Function.update_of_ne ne]
  grows old old_found := by
    obtain rfl : socket = old := Option.some.inj (found.symm.trans old_found)
    exact ⟨grown, by rw [sockets_eq, Function.update_self], more_requests, more_written⟩
  own other other_found := Option.some.inj (other_found.symm.trans fd_found)
  still other other_found := by
    rcases fds_eq with same | closed
    · rw [same] at other_found
      exact Option.some.inj (other_found.symm.trans fd_found)
    · simp [closed] at other_found
  alone other ne other_found := ne (paired.distinct other_found fd_found)
  opened := ⟨opened_eq.ge, opened_eq ▸ paired.numbered fd_found⟩
  holder old other old_found holder_eq := by
    obtain rfl : socket = old := Option.some.inj (found.symm.trans old_found)
    exact held other holder_eq

/-- A connection that a call holds is not in the pool. -/
theorem Paired.outside (paired : Paired property before) {socket : Socket}
    (fd_found : before.fds fd = some number) (found : before.sockets number = some socket)
    (held : socket.holder = some id) (key : Bytes) : fd ∉ before.idlePool key := by
  intro member
  obtain ⟨other, idle_socket, other_found, idle_found, -, idle⟩ := paired.idle member
  obtain rfl : number = other := Option.some.inj (fd_found.symm.trans other_found)
  obtain rfl : socket = idle_socket := Option.some.inj (found.symm.trans idle_found)
  simp [idle.holder] at held

/-- A step that writes back the connection of the call outside the pool, and may close it. -/
theorem Paired.of_held (paired : Paired property before) {socket grown : Socket} {call : Call}
    (fd_found : before.fds fd = some number) (found : before.sockets number = some socket)
    (held : ∀ other, socket.holder = some other → other = id)
    (outside : ∀ key, fd ∉ before.idlePool key) (kept : property grown)
    (more_requests : socket.requests <+: grown.requests)
    (more_written : socket.written <+: grown.written)
    (calls_eq : after.calls = Function.update before.calls id (some call))
    (fds_eq : after.fds = before.fds ∨ after.fds = Function.update before.fds fd none)
    (sockets_eq : after.sockets = Function.update before.sockets number (some grown))
    (opened_eq : after.opened = before.opened) (pool_eq : after.idlePool = before.idlePool)
    (ok : PhaseOk after id call) : Paired property after := by
  refine paired.of_touch (paired.touch_held fd_found found held calls_eq fds_eq sockets_eq opened_eq
    more_requests more_written) ?_ ?_ ?_ ?_
  · intro other other_found
    rw [sockets_eq, Function.update_self] at other_found
    exact Option.some.inj other_found ▸ kept
  · intro key place member
    rw [pool_eq] at member
    refine Or.inl ⟨member, ?_⟩
    rintro rfl
    exact outside key member
  · rw [pool_eq]
    exact paired.nodup
  · intro other other_found
    rw [calls_eq, Function.update_self] at other_found
    exact Option.some.inj other_found ▸ ok

/-- A step of a call that touches no connection. -/
theorem Paired.of_calls (paired : Paired property before) {call : Call}
    (calls_eq : after.calls = Function.update before.calls id (some call))
    (fds_eq : after.fds = before.fds) (sockets_eq : after.sockets = before.sockets)
    (opened_eq : after.opened = before.opened) (pool_eq : after.idlePool = before.idlePool)
    (phase : PhaseOk after id call) : Paired property after where
  numbered := by rw [fds_eq, opened_eq]; exact paired.numbered
  unopened := by rw [sockets_eq, opened_eq]; exact paired.unopened
  distinct := by rw [fds_eq]; exact paired.distinct
  kept := by rw [sockets_eq]; exact paired.kept
  idle := by rw [fds_eq, sockets_eq, pool_eq]; exact paired.idle
  nodup := by rw [pool_eq]; exact paired.nodup
  calls := by
    intro other found_call found
    rw [calls_eq] at found
    by_cases same : other = id
    · subst same
      rw [Function.update_self] at found
      exact Option.some.inj found ▸ phase
    · rw [Function.update_of_ne same] at found
      apply (paired.calls found).map
      · simp only [Holds, fds_eq, sockets_eq, imp_self, implies_true]
      · simp only [Answered, sockets_eq, imp_self, implies_true]

end Touch

/-! ## Moves -/

section Moves

variable {property : Socket → Prop} {state : State} {id number : Nat} {fd : Fd}
  {call : Call} {socket : Socket}

/-- The connection written back is the one the call holds. -/
theorem holds_setSocket_setPhase (fd_found : state.fds fd = some number) {grown : Socket}
    {part : Bytes} {sent : Bool} (served : Served grown id call.frame part sent)
    (key_eq : endpointKey grown.endpoint = endpointKey call.endpoint) (phase : Phase) :
    Holds ((state.setSocket number grown).setPhase id call phase) id { call with phase := phase }
      fd part sent :=
  ⟨number, grown, fd_found, Function.update_self number _ _, key_eq, served⟩

/-- Handing over a connection writes it back. -/
theorem hold_setSocket (state : State) (id : Nat) (call : Call) (fd : Fd) (number : Nat)
    (socket : Socket) :
    hold (state.setSocket number socket) id call fd number socket =
      hold state id call fd number socket := by
  simp [hold, continueSend, State.setSocket, State.setPhase]

/-- An iteration that does not fail appends what it took off the socket. -/
theorem recvIteration_recvResult {strerror : Nat → Bytes} {missing : Nat} {outcome : RecvOutcome}
    {result : RecvResult} {buffer grown : Bytes}
    (received : recvResult socket missing outcome = some result)
    (ok : recvIteration strerror buffer ⟨result, true⟩ = .ok grown) :
    grown = buffer ++ socket.incoming.take result.chunk.length ∧
      result.chunk.length ≤ missing := by
  cases outcome with
  | bytes count =>
      simp only [recvResult] at received
      split_ifs at received with available
      obtain ⟨positive, wanted, present⟩ := available
      obtain rfl := Option.some.inj received
      have size : (socket.incoming.take count).length = count := List.length_take_of_le present
      have appended : grown = buffer ++ socket.incoming.take count := by
        cases chunk_eq : socket.incoming.take count with
        | nil => simp [chunk_eq] at size; omega
        | cons first rest =>
            rw [chunk_eq] at ok
            exact (Except.ok.inj ok).symm
      exact ⟨by simpa [RecvResult.chunk, size] using appended, by simpa [RecvResult.chunk, size]⟩
  | closed =>
      obtain rfl := Option.some.inj received
      cases ok
  | eintr =>
      obtain rfl := Option.some.inj received
      simpa [RecvResult.chunk] using (Except.ok.inj ok).symm
  | eagain =>
      obtain rfl := Option.some.inj received
      cases ok
  | error errno =>
      obtain rfl := Option.some.inj received
      cases ok

variable (paired : Paired property state)

include paired

/-- The pool after the last idle connection of an endpoint was taken out. -/
theorem Paired.pop {key : Bytes} (last : (state.idlePool key).getLast? = some fd) :
    Paired property { state with
        idlePool := Function.update state.idlePool key (state.idlePool key).dropLast } ∧
      ∀ other, fd ∉ Function.update state.idlePool key (state.idlePool key).dropLast other := by
  have bucket : (state.idlePool key).dropLast ++ [fd] = state.idlePool key :=
    List.dropLast_append_getLast? fd last
  have fewer : ∀ other, List.Sublist
      (Function.update state.idlePool key (state.idlePool key).dropLast other)
      (state.idlePool other) := by
    intro other
    by_cases same : other = key
    · subst same
      rw [Function.update_self]
      exact List.dropLast_sublist _
    · rw [Function.update_of_ne same]
  refine ⟨⟨paired.numbered, paired.unopened, paired.distinct, paired.kept, ?_, ?_,
    paired.calls⟩, ?_⟩
  · intro other place member
    exact paired.idle ((fewer other).subset member)
  · exact fun other => (paired.nodup other).sublist (fewer other)
  · intro other member
    by_cases same : other = key
    · subst same
      rw [Function.update_self] at member
      have unique := paired.nodup other
      rw [← bucket] at unique
      exact (List.nodup_append.mp unique).2.2 fd member fd (List.mem_singleton_self fd) rfl
    · rw [Function.update_of_ne same] at member
      obtain ⟨number, socket, fd_found, found, other_eq, -⟩ := paired.idle member
      obtain ⟨twin, twin_socket, twin_fd, twin_found, key_eq, -⟩ :=
        paired.idle (List.mem_of_getLast? last)
      obtain rfl : number = twin := Option.some.inj (fd_found.symm.trans twin_fd)
      obtain rfl : socket = twin_socket := Option.some.inj (found.symm.trans twin_found)
      exact same (other_eq.symm.trans key_eq)

section Held

variable (fd_found : state.fds fd = some number) (found : state.sockets number = some socket)

include fd_found found

/-- A call closes a connection that is not in the pool. -/
theorem Paired.close (held : ∀ other, socket.holder = some other → other = id)
    (outside : ∀ key, fd ∉ state.idlePool key) {phase : Phase}
    (ok : PhaseOk ((state.closeSocket fd).setPhase id call phase) id { call with phase := phase }) :
    Paired property ((state.closeSocket fd).setPhase id call phase) := by
  have sockets_eq : ((state.closeSocket fd).setPhase id call phase).sockets =
      Function.update state.sockets number (some socket) := by
    rw [← found, Function.update_eq_self]
    rfl
  exact paired.of_held fd_found found held outside (paired.kept found) (List.prefix_refl _)
    (List.prefix_refl _) rfl (Or.inr rfl) sockets_eq rfl rfl ok

/-- A call that holds a connection closes it and returns an error. -/
theorem Paired.fail (held : socket.holder = some id) (error : RpcError) :
    Paired property (fail state id call fd error) :=
  paired.close fd_found found (fun other holder_eq => by simpa [held] using holder_eq.symm)
    (paired.outside fd_found found held) trivial

/-- The peer writes on an open connection and keeps its property. -/
theorem Paired.peerWrite {bytes : Bytes} (kept : property (socket.write bytes)) :
    Paired property (state.setSocket number (socket.write bytes)) := by
  have touch : Touch (socket.holder.getD 0) fd number state
      (state.setSocket number (socket.write bytes)) :=
    { calls := fun other ne => rfl
      fds := fun other ne => rfl
      sockets := fun other ne => Function.update_of_ne ne _ _
      grows := by
        intro old old_found
        obtain rfl : socket = old := Option.some.inj (found.symm.trans old_found)
        exact ⟨_, Function.update_self number _ _, List.prefix_refl _, List.prefix_append _ _⟩
      own := fun other other_found => Option.some.inj (other_found.symm.trans fd_found)
      still := fun other other_found => Option.some.inj (other_found.symm.trans fd_found)
      alone := fun other ne other_found => ne (paired.distinct other_found fd_found)
      opened := ⟨le_rfl, paired.numbered fd_found⟩
      holder := by
        intro old other old_found holder_eq
        obtain rfl : socket = old := Option.some.inj (found.symm.trans old_found)
        simp [holder_eq] }
  refine paired.of_touch touch ?_ ?_ paired.nodup ?_
  · intro other other_found
    rw [show (state.setSocket number _).sockets number = some _ from
      Function.update_self number _ _] at other_found
    exact Option.some.inj other_found ▸ kept
  · intro key place member
    by_cases same : place = fd
    · subst same
      obtain ⟨twin, idle_socket, twin_found, idle_found, key_eq, idle⟩ := paired.idle member
      obtain rfl : number = twin := Option.some.inj (fd_found.symm.trans twin_found)
      obtain rfl : socket = idle_socket := Option.some.inj (found.symm.trans idle_found)
      exact Or.inr ⟨socket.write bytes, rfl, fd_found, Function.update_self number _ _, key_eq,
        idle.write bytes⟩
    · exact Or.inl ⟨member, same⟩
  · intro call call_found
    refine (paired.calls call_found).map ?_ (Answered.touch touch)
    rintro place part sent ⟨held, held_socket, place_found, held_found, key_eq, served⟩
    by_cases same : held = number
    · subst same
      obtain rfl : socket = held_socket := Option.some.inj (found.symm.trans held_found)
      exact ⟨held, _, place_found, Function.update_self held _ _, key_eq, served.write bytes⟩
    · exact ⟨held, held_socket, place_found, (Function.update_of_ne same _ _).trans held_found,
        key_eq, served⟩

variable (stable : Stable property)

include stable

theorem Paired.continueSend (held : ∀ other, socket.holder = some other → other = id)
    (outside : ∀ key, fd ∉ state.idlePool key) {grown : Socket} (kept : property grown)
    (more_requests : socket.requests <+: grown.requests)
    (more_written : socket.written <+: grown.written)
    (key_eq : endpointKey grown.endpoint = endpointKey call.endpoint)
    (served : Served grown id call.frame [] false) (offset : Nat) :
    Paired property (continueSend state id call fd number grown offset) := by
  simp only [TcpClientTransport.continueSend]
  split_ifs with more
  · exact paired.of_held fd_found found held outside kept more_requests more_written rfl
      (Or.inl rfl) rfl rfl rfl (holds_setSocket_setPhase fd_found served key_eq _)
  · have still_kept : property { grown with completed := grown.completed + 1 } :=
      stable.grow kept served.bounded rfl (Nat.le_succ grown.completed) (List.prefix_refl _)
    refine paired.of_held fd_found found held outside still_kept more_requests more_written rfl
      (Or.inl rfl) rfl rfl rfl ?_
    exact ⟨by simp, holds_setSocket_setPhase fd_found served.complete key_eq _⟩

/-- An idle connection outside the pool is handed to a call. -/
theorem Paired.hold (idle : Idle socket) (outside : ∀ key, fd ∉ state.idlePool key)
    (key_eq : endpointKey socket.endpoint = endpointKey call.endpoint) :
    Paired property (hold state id call fd number socket) := by
  have more_requests : socket.requests <+: socket.requests ++ [⟨id, call.frame⟩] :=
    List.prefix_append _ _
  have still_kept : property { socket with
      holder := some id
      requests := socket.requests ++ [⟨id, call.frame⟩] } :=
    stable.grow (paired.kept found) idle.completed.le rfl le_rfl more_requests
  apply paired.continueSend fd_found found stable (by simp [idle.holder]) outside still_kept
    more_requests (List.prefix_refl _) key_eq (idle.served id call.frame)

theorem Paired.sendStep (strerror : Nat → Bytes)
    (key_eq : endpointKey socket.endpoint = endpointKey call.endpoint) (offset : Nat)
    (result : SendResult) (served : Served socket id call.frame [] false) :
    Paired property (sendStep strerror state id call fd number socket offset result) := by
  simp only [TcpClientTransport.sendStep]
  split
  · exact paired.fail fd_found found served.holder _
  · apply paired.continueSend fd_found found stable _ (paired.outside fd_found found served.holder)
      (paired.kept found) (List.prefix_refl _) (List.prefix_refl _) key_eq served
    intro other holder_eq
    simpa [served.holder] using holder_eq.symm

/-- The call moves bytes from its connection to its buffer, and may close the connection. -/
theorem Paired.read {part : Bytes} {sent : Bool} (served : Served socket id call.frame part sent)
    (count : Nat) {next : State} {phase : Phase}
    (calls_eq : next.calls = Function.update state.calls id (some { call with phase := phase }))
    (fds_eq : next.fds = state.fds ∨ next.fds = Function.update state.fds fd none)
    (sockets_eq : next.sockets = Function.update state.sockets number
      (some { socket with incoming := socket.incoming.drop count }))
    (opened_eq : next.opened = state.opened) (pool_eq : next.idlePool = state.idlePool)
    (ok : PhaseOk next id { call with phase := phase }) : Paired property next := by
  have still_kept : property { socket with incoming := socket.incoming.drop count } :=
    stable.grow (paired.kept found) served.bounded rfl le_rfl (List.prefix_refl _)
  have held : ∀ other, socket.holder = some other → other = id := by
    intro other holder_eq
    simpa [served.holder] using holder_eq.symm
  exact paired.of_held fd_found found held (paired.outside fd_found found served.holder)
    still_kept (List.prefix_refl _) (List.prefix_refl _) calls_eq fds_eq sockets_eq opened_eq
    pool_eq ok

theorem Paired.recvLengthStep (strerror : Nat → Bytes)
    (key_eq : endpointKey socket.endpoint = endpointKey call.endpoint) {buffer : Bytes}
    (partial_field : buffer.length < 4) {outcome : RecvOutcome} {result : RecvResult}
    (received : recvResult socket (4 - buffer.length) outcome = some result)
    (served : Served socket id call.frame buffer true) :
    Paired property (recvLengthStep strerror state id call fd number socket buffer result) := by
  simp only [TcpClientTransport.recvLengthStep]
  split
  · exact paired.fail fd_found found served.holder _
  rename_i grown ok
  obtain ⟨grown_eq, wanted⟩ := recvIteration_recvResult received ok
  have grown_served := served.read result.chunk.length
  rw [← grown_eq] at grown_served
  have bounded : grown.length ≤ 4 := by
    rw [grown_eq, List.length_append, List.length_take]
    omega
  split_ifs with more
  · exact paired.read fd_found found stable served _ rfl (Or.inl rfl) rfl rfl rfl
      ⟨more, holds_setSocket_setPhase fd_found grown_served key_eq _⟩
  · rw [checkFrameSize_eq]
    by_cases admissible : AdmissibleLength (decode32 grown)
    · simp only [admissible, if_true]
      have nonempty : 0 < decode32 grown := by
        have := admissible.1
        omega
      refine paired.read fd_found found stable served _ rfl (Or.inl rfl) rfl rfl rfl
        ⟨by omega, rfl, admissible, nonempty, ?_⟩
      rw [List.append_nil]
      exact holds_setSocket_setPhase fd_found grown_served key_eq _
    · simp only [admissible, if_false]
      exact paired.read fd_found found stable served _ rfl (Or.inr rfl) rfl rfl rfl trivial

theorem Paired.recvBodyStep (strerror : Nat → Bytes)
    (key_eq : endpointKey socket.endpoint = endpointKey call.endpoint) {lengthField buffer : Bytes}
    {size : Nat} (field_size : lengthField.length = 4) (size_eq : decode32 lengthField = size)
    (admissible : AdmissibleLength size) (partial_body : buffer.length < size)
    {outcome : RecvOutcome} {result : RecvResult}
    (received : recvResult socket (size - buffer.length) outcome = some result)
    (served : Served socket id call.frame (lengthField ++ buffer) true) :
    Paired property
      (recvBodyStep strerror state id call fd number socket lengthField size buffer result) := by
  simp only [TcpClientTransport.recvBodyStep]
  split
  · exact paired.fail fd_found found served.holder _
  rename_i grown ok
  obtain ⟨grown_eq, wanted⟩ := recvIteration_recvResult received ok
  have grown_served := served.read result.chunk.length
  rw [List.append_assoc, ← grown_eq] at grown_served
  have bounded : grown.length ≤ size := by
    rw [grown_eq, List.length_append, List.length_take]
    omega
  split_ifs with more
  · exact paired.read fd_found found stable served _ rfl (Or.inl rfl) rfl rfl rfl
      ⟨field_size, size_eq, admissible, more,
        holds_setSocket_setPhase fd_found grown_served key_eq _⟩
  · have whole_size : decode32 (lengthField ++ grown) = size := by
      rw [decode32_append lengthField grown field_size.ge, size_eq]
    have isFrame : IsFrame (lengthField ++ grown) := by
      refine ⟨whole_size ▸ admissible, ?_⟩
      rw [whole_size, List.length_append]
      omega
    exact paired.read fd_found found stable served _ rfl (Or.inl rfl) rfl rfl rfl
      ⟨isFrame, holds_setSocket_setPhase fd_found grown_served key_eq _⟩

theorem Paired.returnConnection (key_eq : endpointKey socket.endpoint = endpointKey call.endpoint)
    {frame : Bytes} (isFrame : IsFrame frame) (served : Served socket id call.frame frame true) :
    Paired property (returnConnection state id call fd number socket frame) := by
  obtain ⟨idle, index, request, answer⟩ := served.answer isFrame
  have held : ∀ other, socket.holder = some other → other = id := by
    intro other holder_eq
    simpa [served.holder] using holder_eq.symm
  have outside := paired.outside fd_found found served.holder
  simp only [TcpClientTransport.returnConnection]
  split_ifs with full
  · exact paired.close fd_found found held outside
      ⟨number, socket, index, found, request, answer⟩
  · refine paired.of_touch (paired.touch_held fd_found found held rfl (Or.inl rfl) rfl rfl
      (List.prefix_refl _) (List.prefix_refl _)) ?_ ?_ ?_ ?_
    · intro other other_found
      obtain rfl : { socket with holder := none } = other := by
        simpa [State.setSocket, State.setPhase] using other_found
      exact stable.grow (paired.kept found) served.bounded rfl le_rfl (List.prefix_refl _)
    · intro key place member
      simp only [State.setSocket, State.setPhase] at member
      rw [Function.update_apply] at member
      split_ifs at member with same
      · subst same
        rcases List.mem_append.mp member with earlier | returned
        · refine Or.inl ⟨earlier, ?_⟩
          rintro rfl
          exact outside _ earlier
        · exact Or.inr ⟨{ socket with holder := none }, List.mem_singleton.mp returned, fd_found,
            Function.update_self number _ _, key_eq, idle⟩
      · refine Or.inl ⟨member, ?_⟩
        rintro rfl
        exact outside key member
    · intro key
      simp only [State.setSocket, State.setPhase]
      rw [Function.update_apply]
      split_ifs with same
      · refine List.nodup_append.mpr ⟨paired.nodup _, List.nodup_singleton fd, ?_⟩
        rintro place member other other_member rfl
        exact outside _ (List.mem_singleton.mp other_member ▸ member)
      · exact paired.nodup key
    · intro other other_found
      obtain rfl : { call with phase := .finished (.ok frame) } = other := by
        simpa [State.setPhase] using other_found
      exact ⟨number, { socket with holder := none }, index,
        Function.update_self number _ _, request, answer⟩

end Held

variable (stable : Stable property)

include stable

/-- A new connection is a connection outside the pool. -/
theorem Paired.connect (fresh : state.fds fd = none) (endpoint : Endpoint) :
    Paired property ({ state with
        fds := Function.update state.fds fd (some state.opened)
        opened := state.opened + 1 }.setSocket state.opened
          { endpoint := endpoint, holder := none }) := by
  have unused : state.sockets state.opened = none := paired.unopened le_rfl
  have touch : Touch 0 fd state.opened state ({ state with
      fds := Function.update state.fds fd (some state.opened)
      opened := state.opened + 1 }.setSocket state.opened
        { endpoint := endpoint, holder := none }) :=
    { calls := fun other ne => rfl
      fds := fun other ne => Function.update_of_ne ne _ _
      sockets := fun other ne => Function.update_of_ne ne _ _
      grows := by simp [unused]
      own := by simp [fresh]
      still := by simp [State.setSocket]
      alone := fun other ne other_found => absurd (paired.numbered other_found) (by omega)
      opened := ⟨Nat.le_succ _, Nat.lt_succ_self _⟩
      holder := by simp [unused] }
  refine paired.of_touch touch ?_ ?_ paired.nodup ?_
  · intro socket found
    obtain rfl : ({ endpoint := endpoint, holder := none } : Socket) = socket := by
      simpa [State.setSocket] using found
    exact stable.new endpoint none
  · intro key place member
    refine Or.inl ⟨member, ?_⟩
    rintro rfl
    obtain ⟨number, socket, found, -⟩ := paired.idle member
    simp [fresh] at found
  · intro call found
    exact (paired.calls found).touch touch (by simp [unused])

theorem Paired.borrowConnection {outcome : BorrowOutcome} {next : State}
    (moved : borrowConnection state id call outcome = some next) : Paired property next := by
  simp only [TcpClientTransport.borrowConnection] at moved
  split at moved
  · obtain rfl := Option.some.inj moved
    exact paired.of_calls rfl rfl rfl rfl rfl trivial
  · rename_i fd last
    obtain ⟨popped, outside⟩ := paired.pop last
    obtain ⟨number, socket, fd_found, found, key_eq, idle⟩ :=
      paired.idle (List.mem_of_getLast? last)
    have unheld : ∀ other, socket.holder = some other → other = id := by simp [idle.holder]
    cases outcome with
    | blockingModeFailed =>
        obtain rfl := Option.some.inj moved
        exact popped.close fd_found found unheld outside trivial
    | configureFailed =>
        obtain rfl := Option.some.inj moved
        exact popped.close fd_found found unheld outside trivial
    | ready =>
        simp only [fd_found, found, Option.some.injEq] at moved
        rw [← moved]
        exact popped.hold fd_found found stable idle outside key_eq

theorem Paired.connectTo (strerror : Nat → Bytes) {outcome : ConnectOutcome} {next : State}
    (moved : connectTo strerror state id call outcome = some next) : Paired property next := by
  match outcome with
  | .socketFailed _ | .invalidHost | .receiveTimeoutFailed _ | .sendTimeoutFailed _
  | .connectFailed _ =>
      obtain rfl := Option.some.inj moved
      exact paired.of_calls rfl rfl rfl rfl rfl trivial
  | .connected fd =>
      simp only [TcpClientTransport.connectTo] at moved
      split_ifs at moved with open_already
      simp only [not_or, not_not] at open_already
      have connected := paired.connect stable open_already.2 call.endpoint
      have outside : ∀ key, fd ∉ state.idlePool key := by
        intro key member
        obtain ⟨number, socket, found, -⟩ := paired.idle member
        simp [open_already.2] at found
      obtain rfl := Option.some.inj moved
      rw [← hold_setSocket _ id call fd state.opened { endpoint := call.endpoint, holder := none }]
      exact connected.hold (Function.update_self fd _ _) (Function.update_self state.opened _ _)
        stable (idle_new call.endpoint) outside rfl

end Moves

/-! ## Runs -/

/-- A write of a peer is admitted when the connection keeps the property. -/
def PeersKeep (property : Socket → Prop) (state : State) : Action → Prop
  | .peerWrite fd bytes => ∀ number socket, state.socketAt fd = some (number, socket) →
      property (socket.write bytes)
  | _ => True

theorem socketAt_eq_some {state : State} {fd : Fd} {number : Nat} {socket : Socket} :
    state.socketAt fd = some (number, socket) ↔
      state.fds fd = some number ∧ state.sockets number = some socket := by
  simp only [State.socketAt, Option.bind_eq_bind, Option.bind_eq_some_iff, Option.pure_def,
    Option.some.injEq, Prod.mk.injEq]
  constructor
  · rintro ⟨found, fd_found, found_socket, socket_found, rfl, rfl⟩
    exact ⟨fd_found, socket_found⟩
  · rintro ⟨fd_found, socket_found⟩
    exact ⟨number, fd_found, socket, socket_found, rfl, rfl⟩

/-- The connection found behind the descriptor is the one the call holds. -/
theorem Holds.at {state : State} {id : Nat} {call : Call} {fd : Fd} {part : Bytes} {sent : Bool}
    (holds : Holds state id call fd part sent) {number : Nat} {socket : Socket}
    (at_fd : state.socketAt fd = some (number, socket)) :
    state.fds fd = some number ∧ state.sockets number = some socket ∧
      endpointKey socket.endpoint = endpointKey call.endpoint ∧
      Served socket id call.frame part sent := by
  obtain ⟨fd_found, found⟩ := socketAt_eq_some.mp at_fd
  obtain ⟨twin, twin_socket, twin_fd, twin_found, key_eq, served⟩ := holds
  obtain rfl : number = twin := Option.some.inj (fd_found.symm.trans twin_fd)
  obtain rfl : socket = twin_socket := Option.some.inj (found.symm.trans twin_found)
  exact ⟨fd_found, found, key_eq, served⟩

section Runs

variable {strerror : Nat → Bytes} {property : Socket → Prop} (stable : Stable property)
  {state next : State}

include stable

theorem Paired.move (paired : Paired property state) {id : Nat} {call : Call}
    (ok : PhaseOk state id call) {outcome : Outcome}
    (moved : move strerror state id call call.phase outcome = some next) :
    Paired property next := by
  obtain ⟨endpoint, frame, phase⟩ := call
  simp only [TcpClientTransport.move, Option.bind_eq_bind, Option.pure_def] at moved
  split at moved
  case h_1 => exact paired.borrowConnection stable moved
  case h_2 => exact paired.connectTo stable strerror moved
  case h_3 fd offset result =>
      simp only [Option.bind_eq_some_iff, Option.some.injEq, Prod.exists] at moved
      obtain ⟨number, socket, at_fd, rfl⟩ := moved
      obtain ⟨fd_found, found, key_eq, served⟩ := Holds.at ok at_fd
      exact paired.sendStep fd_found found stable strerror key_eq offset result served
  case h_4 fd buffer outcome =>
      simp only [Option.bind_eq_some_iff, Option.some.injEq, Prod.exists] at moved
      obtain ⟨number, socket, at_fd, result, received, rfl⟩ := moved
      obtain ⟨partial_field, holds⟩ := ok
      obtain ⟨fd_found, found, key_eq, served⟩ := holds.at at_fd
      exact paired.recvLengthStep fd_found found stable strerror key_eq partial_field received
        served
  case h_5 fd lengthField size buffer outcome =>
      simp only [Option.bind_eq_some_iff, Option.some.injEq, Prod.exists] at moved
      obtain ⟨number, socket, at_fd, result, received, rfl⟩ := moved
      obtain ⟨field_size, size_eq, admissible, partial_body, holds⟩ := ok
      obtain ⟨fd_found, found, key_eq, served⟩ := holds.at at_fd
      exact paired.recvBodyStep fd_found found stable strerror key_eq field_size size_eq admissible
        partial_body received served
  case h_6 fd response =>
      simp only [Option.bind_eq_some_iff, Option.some.injEq, Prod.exists] at moved
      obtain ⟨number, socket, at_fd, rfl⟩ := moved
      obtain ⟨isFrame, holds⟩ := ok
      obtain ⟨fd_found, found, key_eq, served⟩ := holds.at at_fd
      exact paired.returnConnection fd_found found stable key_eq isFrame served
  case h_7 => cases moved

theorem Paired.step (paired : Paired property state) {action : Action}
    (permitted : PeersKeep property state action)
    (moved : step strerror state action = some next) : Paired property next := by
  cases action with
  | start endpoint frame =>
      obtain rfl := Option.some.inj moved
      exact paired.of_calls rfl rfl rfl rfl rfl trivial
  | move id outcome =>
      simp only [TcpClientTransport.step, Option.bind_eq_bind, Option.bind_eq_some_iff] at moved
      obtain ⟨call, found, moved⟩ := moved
      exact Paired.move stable paired (paired.calls found) moved
  | peerWrite fd bytes =>
      simp only [TcpClientTransport.step, Option.bind_eq_bind, Option.bind_eq_some_iff,
        Option.pure_def, Option.some.injEq, Prod.exists] at moved
      obtain ⟨number, socket, at_fd, rfl⟩ := moved
      obtain ⟨fd_found, found⟩ := socketAt_eq_some.mp at_fd
      exact paired.peerWrite fd_found found (permitted number socket at_fd)

/-- The invariant holds in every state of a run in which every write of a peer keeps the
property. -/
theorem paired_of_run (run : Run strerror (PeersKeep property) state) : Paired property state := by
  induction run with
  | initial => exact paired_initial property
  | step action before permitted moved paired => exact paired.step stable permitted moved

end Runs

end TcpClientTransport

end Hxrpc
