import Hxrpc.Client.Pairing

/-!
# Every call gets the answer to its own request

While the peers answer the requests of a connection one by one and in order, a call reads the answer
to its own request, and a connection in the pool has no request unanswered and no byte unread.
-/

namespace Hxrpc

open BigEndian StreamCut

namespace TcpClientTransport

/-- What the peer wrote begins the answers to the first requests of the connection: one frame each,
in order, and none before its request was taken completely. -/
def Disciplined (answersTo : Posted → Bytes → Prop) (socket : Socket) : Prop :=
  ∃ answers : List Bytes, answers.length ≤ socket.completed ∧
    (∀ answer ∈ answers, IsFrame answer) ∧
    (∀ (index : Nat) (request : Posted) (answer : Bytes), socket.requests[index]? = some request →
      answers[index]? = some answer → answersTo request answer) ∧
    socket.written <+: answers.flatten

theorem stable_disciplined (answersTo : Posted → Bytes → Prop) :
    Stable (Disciplined answersTo) where
  new endpoint holder := ⟨[], le_rfl, by simp, by simp, List.nil_prefix⟩
  grow := by
    rintro socket grown ⟨answers, enough, frames, matching, begins⟩ bounded same_written
      more_completed more_requests
    refine ⟨answers, enough.trans more_completed, frames, ?_, same_written ▸ begins⟩
    intro index request answer found_request found_answer
    obtain ⟨tail, requests_eq⟩ := more_requests
    have within : index < socket.requests.length := by
      have := (List.getElem?_eq_some_iff.mp found_answer).1
      omega
    rw [← requests_eq, List.getElem?_append_left within] at found_request
    exact matching index request answer found_request found_answer

/-- The frames of a disciplined peer answer the requests at their places. -/
theorem Disciplined.answers {answersTo : Posted → Bytes → Prop} {socket : Socket}
    (disciplined : Disciplined answersTo socket) {index : Nat} {request : Posted} {answer : Bytes}
    (request_found : socket.requests[index]? = some request)
    (answer_found : (frameCutter.split socket.written).items[index]? = some answer) :
    answersTo request answer := by
  obtain ⟨answers, -, frames, matching, tail, written_eq⟩ := disciplined
  have split_eq := frameCutter_split_frames frames []
  rw [frameCutter_split_nil, List.append_nil, List.append_nil, ← written_eq] at split_eq
  have front := frameCutter.items_prefix_append socket.written tail
  rw [split_eq] at front
  exact matching index request answer request_found (getElem?_eq_some_of_begins front answer_found)

/-- A connection without open business: the kernel took every request, the peer wrote exactly one
answer to each, and every byte of them was read. -/
structure Settled (answersTo : Posted → Bytes → Prop) (socket : Socket) : Prop where
  completed : socket.completed = socket.requests.length
  answered : ∀ (index : Nat) (request : Posted), socket.requests[index]? = some request →
    ∃ answer, (frameCutter.split socket.written).items[index]? = some answer ∧
      answersTo request answer
  exact_count : (frameCutter.split socket.written).items.length = socket.requests.length
  whole : (frameCutter.split socket.written).residue = []
  read : socket.incoming = []

theorem Idle.settled {answersTo : Posted → Bytes → Prop} {socket : Socket} (idle : Idle socket)
    (disciplined : Disciplined answersTo socket) : Settled answersTo socket := by
  obtain ⟨answers, same_length, frames, written_eq⟩ := idle.answered
  have nothing_left : socket.incoming = [] := by
    obtain ⟨all, enough, all_frames, -, begins⟩ := disciplined
    rw [written_eq] at begins
    have behind := (frames_begin frames all_frames begins).2
    have all_read : all.length ≤ answers.length := by
      rw [same_length, ← idle.completed]
      exact enough
    rw [List.drop_of_length_le all_read] at behind
    exact List.prefix_nil.mp behind
  have split_eq : frameCutter.split socket.written =
      { items := answers, residue := [], rejected := false } := by
    rw [written_eq, nothing_left, frameCutter_split_frames frames, frameCutter_split_nil,
      List.append_nil]
  refine ⟨idle.completed, ?_, by rw [split_eq, same_length], by rw [split_eq], nothing_left⟩
  intro index request found
  have within : index < (frameCutter.split socket.written).items.length := by
    rw [split_eq, same_length]
    exact (List.getElem?_eq_some_iff.mp found).1
  have answer_found := List.getElem?_eq_getElem within
  exact ⟨_, answer_found, disciplined.answers found answer_found⟩

/-- Whatever the interleaving of the calls and however they fail, a call that returns a value
returns the answer to its own request, and the connections in the pool have no open business. -/
theorem roundTrip_pairs_answers (strerror : Nat → Bytes) (answersTo : Posted → Bytes → Prop)
    {state : State} (run : Run strerror (PeersKeep (Disciplined answersTo)) state) :
    (∀ id call response, state.calls id = some call → call.phase = .finished (.ok response) →
      answersTo ⟨id, call.frame⟩ response ∧ ∃ (number : Nat) (socket : Socket) (index : Nat),
        state.sockets number = some socket ∧
        socket.requests[index]? = some ⟨id, call.frame⟩ ∧
        (frameCutter.split socket.written).items[index]? = some response) ∧
    ∀ key fd, fd ∈ state.idlePool key → ∃ number socket, state.fds fd = some number ∧
      state.sockets number = some socket ∧ Settled answersTo socket := by
  have paired := paired_of_run (stable_disciplined answersTo) run
  constructor
  · intro id call response found returned
    have ok := paired.calls found
    simp only [PhaseOk, returned] at ok
    obtain ⟨number, socket, index, socket_found, request_found, answer_found⟩ := ok
    exact ⟨(paired.kept socket_found).answers request_found answer_found, number, socket, index,
      socket_found, request_found, answer_found⟩
  · intro key fd member
    obtain ⟨number, socket, fd_found, socket_found, -, idle⟩ := paired.idle member
    exact ⟨number, socket, fd_found, socket_found, idle.settled (paired.kept socket_found)⟩

/-- A peer that sends every request back. -/
def Echoes (request : Posted) (response : Bytes) : Prop :=
  response = request.frame

/-- The endpoint of the runs below. -/
def localEndpoint : Endpoint := ⟨text "127.0.0.1", 9000⟩

theorem disciplined_echoes {socket : Socket} (completed : socket.completed = socket.requests.length)
    (frames : ∀ answer ∈ socket.requests.map Posted.frame, IsFrame answer)
    (begins : socket.written <+: (socket.requests.map Posted.frame).flatten) :
    Disciplined Echoes socket := by
  refine ⟨socket.requests.map Posted.frame, by simp [completed], frames, ?_, begins⟩
  intro index request answer request_found answer_found
  rw [List.getElem?_map, request_found] at answer_found
  exact (Option.some.inj answer_found).symm

/-- A second call on the connection of the first one, to an echoing peer whose answers are read in
two pieces. -/
theorem roundTrip_pairs_echoes :
    ∃ state, Run (fun _ => []) (PeersKeep (Disciplined Echoes)) state ∧
      (state.calls 1).map Call.phase = some (.finished (.ok [0, 0, 0, 4, 0, 0, 0, 9])) ∧
      Echoes ⟨1, [0, 0, 0, 4, 0, 0, 0, 9]⟩ [0, 0, 0, 4, 0, 0, 0, 9] ∧
      ∃ number socket, state.fds 5 = some number ∧ state.sockets number = some socket ∧
        Settled Echoes socket := by
  have started := (Run.initial : Run (fun _ => []) (PeersKeep (Disciplined Echoes)) {}).step
    (.start localEndpoint [0, 0, 0, 4, 0, 0, 0, 0]) trivial rfl
  have connecting := started.step (.move 0 (.borrow .ready)) trivial rfl
  have connected := connecting.step (.move 0 (.connect (.connected 5))) trivial rfl
  have sent := connected.step (.move 0 (.send (.written 8))) trivial rfl
  have answered := sent.step (.peerWrite 5 [0, 0, 0, 4, 0, 0, 0, 0]) (by
    rintro number socket ⟨⟩
    exact disciplined_echoes rfl (by decide) (by decide)) rfl
  have received := (answered.step (.move 0 (.recv (.bytes 4))) trivial rfl).step
    (.move 0 (.recv (.bytes 4))) trivial rfl
  have returned := received.step (.move 0 .giveBack) trivial rfl
  have again := returned.step (.start localEndpoint [0, 0, 0, 4, 0, 0, 0, 9]) trivial rfl
  have borrowed := again.step (.move 1 (.borrow .ready)) trivial rfl
  have sent_again := borrowed.step (.move 1 (.send (.written 8))) trivial rfl
  have answered_again := sent_again.step (.peerWrite 5 [0, 0, 0, 4, 0, 0, 0, 9]) (by
    rintro number socket ⟨⟩
    exact disciplined_echoes rfl (by decide) (by decide)) rfl
  have received_again := (answered_again.step (.move 1 (.recv (.bytes 4))) trivial rfl).step
    (.move 1 (.recv (.bytes 4))) trivial rfl
  have all := received_again.step (.move 1 .giveBack) trivial rfl
  obtain ⟨values, pooled⟩ := roundTrip_pairs_answers _ _ all
  exact ⟨_, all, rfl, (values 1 _ _ rfl rfl).1,
    pooled (endpointKey localEndpoint) 5 (List.mem_singleton_self 5)⟩

end TcpClientTransport

end Hxrpc
