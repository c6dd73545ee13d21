import Hxrpc.Client.RpcClient

/-!
# Requests and responses of a client

`InvokeAsync` does not compare the request id of a response with its own.  A call that succeeds has
copied out a response with the id of its request in every run in which the peers never write more
frames than they got requests and each frame carries the id of the request at its place; one
duplicated response is enough for a later call to take it for its own.
-/

namespace Hxrpc

open BigEndian RpcStatusCode StreamCut
open TcpClientTransport (Posted Socket PeersKeep Stable Paired)

namespace RpcClient

variable {Message : Type}

/-- The call copied out the payload of a response with the id that it put in its request frame. -/
def TookOwnResponse (client : RpcClient Message) (session : Session Message) (id : Nat)
    (response : Message) : Prop :=
  ∃ invocation outgoing call frame rpcResponse,
    session.sent id = some (invocation, outgoing) ∧
    session.transport.calls id = some call ∧ call.frame = outgoing.frame ∧
    RpcCodec.wireRequestId client.headers outgoing.frame = some outgoing.requestId ∧
    call.phase = .finished (.ok frame) ∧
    RpcCodec.decodeResponse client.headers frame = .ok rpcResponse ∧
    (∃ target, ProtobufSerializer.deserialize client.messages rpcResponse.payload target =
      (response, .ok ())) ∧
    rpcResponse.requestId = outgoing.requestId

/-! ## The calls of a session -/

/-- What the client knows of its calls. -/
structure Recorded (client : RpcClient Message) (session : Session Message) : Prop where
  fresh : ∀ {id}, session.transport.started ≤ id → session.sent id = none
  sent : ∀ {id invocation outgoing}, session.sent id = some (invocation, outgoing) →
    RpcCodec.wireRequestId client.headers outgoing.frame = some outgoing.requestId ∧
      ∃ call, session.transport.calls id = some call ∧ call.frame = outgoing.frame
  returned : ∀ {id result response}, session.returned id = some (result, response) →
    ∃ invocation outgoing call responseFrame pool after,
      session.sent id = some (invocation, outgoing) ∧ session.transport.calls id = some call ∧
      call.phase = .finished responseFrame ∧
      client.invokeAsyncReceive pool invocation.response responseFrame = (result, response, after)

section Recorded

variable {client : RpcClient Message} {strerror : Nat → Bytes} {session next : Session Message}

theorem recorded_initial (client : RpcClient Message) : Recorded client {} := by
  constructor <;> simp

/-- A step of the transport after which every call has its frame and every returned call its
result. -/
theorem Recorded.of_transport (recorded : Recorded client session)
    {transport : TcpClientTransport.State}
    (started : transport.started = session.transport.started)
    (calls : ∀ id call, session.transport.calls id = some call → ∃ later,
      transport.calls id = some later ∧ later.frame = call.frame ∧
        ∀ result, call.phase = .finished result → later.phase = .finished result) :
    Recorded client { session with transport := transport } where
  fresh above := recorded.fresh (started ▸ above)
  sent found := by
    obtain ⟨id_eq, call, call_found, frame_eq⟩ := recorded.sent found
    obtain ⟨later, later_found, same_frame, -⟩ := calls _ call call_found
    exact ⟨id_eq, later, later_found, same_frame.trans frame_eq⟩
  returned found := by
    obtain ⟨invocation, outgoing, call, responseFrame, pool, after, sent_found, call_found,
      finished, received⟩ := recorded.returned found
    obtain ⟨later, later_found, -, kept⟩ := calls _ call call_found
    exact ⟨invocation, outgoing, later, responseFrame, pool, after, sent_found, later_found,
      kept responseFrame finished, received⟩

/-- A new call takes the next number of the transport. -/
theorem Recorded.invoke (lawful : client.headers.Lawful) (recorded : Recorded client session)
    {invocation : Invocation Message} {resolved : Except RpcError ServiceInstance}
    {outgoing : Outgoing} {nextRequestId : UInt64}
    (sent : client.invokeAsyncSend session.nextRequestId invocation resolved =
      (.ok outgoing, nextRequestId))
    {transport : TcpClientTransport.State}
    (moved : TcpClientTransport.step strerror session.transport
      (.start outgoing.endpoint outgoing.frame) = some transport) :
    Recorded client { session with
      transport := transport
      nextRequestId := nextRequestId
      sent := Function.update session.sent session.transport.started
        (some (invocation, outgoing)) } := by
  obtain rfl := Option.some.inj moved
  obtain ⟨payload, -, encoded⟩ := invokeAsyncSend_ok sent
  have id_eq := RpcCodec.wireRequestId_encodeRequest lawful encoded
  have earlier : ∀ {id known}, session.sent id = some known → id ≠ session.transport.started := by
    rintro id known found rfl
    simp [recorded.fresh le_rfl] at found
  constructor
  · intro id above
    have ne : id ≠ session.transport.started := by
      simp only at above
      omega
    simp only [Function.update_of_ne ne]
    exact recorded.fresh (by simp only at above; omega)
  · intro id known posted found
    by_cases same : id = session.transport.started
    · subst same
      simp only [Function.update_self, Option.some.injEq, Prod.mk.injEq] at found
      obtain ⟨rfl, rfl⟩ := found
      exact ⟨id_eq, _, Function.update_self _ _ _, rfl⟩
    · simp only [Function.update_of_ne same] at found ⊢
      exact recorded.sent found
  · intro id result response found
    obtain ⟨known, posted, call, responseFrame, pool, after, sent_found, call_found, finished,
      received⟩ := recorded.returned found
    have ne := earlier sent_found
    exact ⟨known, posted, call, responseFrame, pool, after,
      (Function.update_of_ne ne _ _).trans sent_found,
      (Function.update_of_ne ne _ _).trans call_found, finished, received⟩

/-- A call whose round trip returned runs to its end. -/
theorem Recorded.resume (recorded : Recorded client session) {id : Nat}
    {invocation : Invocation Message} {outgoing : Outgoing} {call : TcpClientTransport.Call}
    {responseFrame : Except RpcError Bytes} {result : Except RpcError Unit} {response : Message}
    {messagePool : MessagePool Message}
    (sent_found : session.sent id = some (invocation, outgoing))
    (call_found : session.transport.calls id = some call)
    (finished : call.phase = .finished responseFrame)
    (received : client.invokeAsyncReceive session.messagePool invocation.response responseFrame =
      (result, response, messagePool)) :
    Recorded client { session with
      messagePool := messagePool
      returned := Function.update session.returned id (some (result, response)) } := by
  refine ⟨recorded.fresh, recorded.sent, ?_⟩
  intro other result response found
  by_cases same : other = id
  · subst same
    simp only [Function.update_self, Option.some.injEq, Prod.mk.injEq] at found
    obtain ⟨rfl, rfl⟩ := found
    exact ⟨invocation, outgoing, call, responseFrame, session.messagePool, messagePool,
      sent_found, call_found, finished, received⟩
  · simp only [Function.update_of_ne same] at found
    exact recorded.returned found

/-- A round trip that moves keeps its frame and has not returned before. -/
theorem Recorded.move (recorded : Recorded client session) {id : Nat}
    {outcome : TcpClientTransport.Outcome} {transport : TcpClientTransport.State}
    (moved : TcpClientTransport.step strerror session.transport (.move id outcome) =
      some transport) :
    Recorded client { session with transport := transport } := by
  simp only [TcpClientTransport.step, Option.bind_eq_bind, Option.bind_eq_some_iff] at moved
  obtain ⟨call, found, moved⟩ := moved
  obtain ⟨⟨started, phase, calls_eq⟩, unfinished⟩ := TcpClientTransport.goesOn_move moved
  refine recorded.of_transport started fun other known known_found => ?_
  by_cases same : other = id
  · subst same
    obtain rfl : call = known := Option.some.inj (found.symm.trans known_found)
    refine ⟨{ call with phase := phase }, by rw [calls_eq, Function.update_self], rfl, ?_⟩
    intro result finished
    exact absurd finished (unfinished result)
  · exact ⟨known, by rw [calls_eq, Function.update_of_ne same, known_found], rfl,
      fun _ finished => finished⟩

theorem Recorded.peerWrite (recorded : Recorded client session) {fd : Fd} {bytes : Bytes}
    {transport : TcpClientTransport.State}
    (moved : TcpClientTransport.step strerror session.transport (.peerWrite fd bytes) =
      some transport) :
    Recorded client { session with transport := transport } := by
  simp only [TcpClientTransport.step, Option.bind_eq_bind, Option.bind_eq_some_iff,
    Option.pure_def, Option.some.injEq] at moved
  obtain ⟨_, -, rfl⟩ := moved
  exact recorded.of_transport rfl fun other known known_found =>
    ⟨known, known_found, rfl, fun _ finished => finished⟩

theorem Recorded.step (lawful : client.headers.Lawful) (recorded : Recorded client session)
    {event : Event Message} (moved : client.step strerror session event = some next) :
    Recorded client next := by
  cases stepped_of_step moved with
  | refused failed => exact ⟨recorded.fresh, recorded.sent, recorded.returned⟩
  | sent encoded carried => exact recorded.invoke lawful encoded carried
  | move carried => exact recorded.move carried
  | peerWrite carried => exact recorded.peerWrite carried
  | resume found under_way finished waiting received =>
      exact recorded.resume found under_way finished received

theorem recorded_of_run (lawful : client.headers.Lawful)
    {allowed : Session Message → Event Message → Prop}
    (run : Run client strerror allowed session) : Recorded client session := by
  induction run with
  | initial => exact recorded_initial client
  | step event before permitted moved recorded => exact recorded.step lawful moved

end Recorded

/-! ## Runs of the client and of its transport -/

/-- A write of a peer is admitted when the connection keeps the property. -/
def PeersWrite (property : Socket → Prop) (session : Session Message) : Event Message → Prop
  | .peerWrite fd bytes => PeersKeep property session.transport (.peerWrite fd bytes)
  | _ => True

/-- Every run of a client is a run of its transport. -/
theorem transport_of_run {client : RpcClient Message} {strerror : Nat → Bytes}
    {property : Socket → Prop} {session : Session Message}
    (run : Run client strerror (PeersWrite property) session) :
    TcpClientTransport.Run strerror (PeersKeep property) session.transport := by
  induction run with
  | initial => exact .initial
  | step event before permitted moved ih =>
      cases stepped_of_step moved with
      | refused failed => exact ih
      | sent encoded carried => exact ih.step (.start _ _) trivial carried
      | move carried => exact ih.step (.move _ _) trivial carried
      | peerWrite carried => exact ih.step (.peerWrite _ _) permitted carried
      | resume found under_way finished waiting received => exact ih

/-! ## Peers that keep the ids -/

/-- The peer wrote no more frames than it got requests, and a frame that decodes carries the id of
the request at its place. -/
def Correlated (headers : HeaderCodec) (socket : Socket) : Prop :=
  (frameCutter.split socket.written).items.length ≤ socket.requests.length ∧
    ∀ (index : Nat) (request : Posted) (answer : Bytes) (response : RpcResponse),
      socket.requests[index]? = some request →
      (frameCutter.split socket.written).items[index]? = some answer →
      RpcCodec.decodeResponse headers answer = .ok response →
      RpcCodec.wireRequestId headers request.frame = some response.requestId

theorem stable_correlated (headers : HeaderCodec) : Stable (Correlated headers) where
  new endpoint holder := by
    simp only [Correlated, frameCutter_split_nil]
    exact ⟨le_rfl, by simp⟩
  grow := by
    rintro socket grown ⟨few, matching⟩ - same_written - ⟨tail, requests_eq⟩
    simp only [Correlated, same_written, ← requests_eq]
    refine ⟨by rw [List.length_append]; omega, ?_⟩
    intro index request answer response request_found answer_found decoded
    have within : index < socket.requests.length :=
      (List.getElem?_eq_some_iff.mp answer_found).1.trans_le few
    rw [List.getElem?_append_left within] at request_found
    exact matching index request answer response request_found answer_found decoded

/-- In every run whose peers keep the ids, a call that succeeds took the response to its own
request. -/
theorem success_takes_own_response (client : RpcClient Message) (strerror : Nat → Bytes)
    (lawful : client.headers.Lawful) {session : Session Message}
    (run : Run client strerror (PeersWrite (Correlated client.headers)) session) {id : Nat}
    {response : Message} (returned : session.returned id = some (.ok (), response)) :
    TookOwnResponse client session id response := by
  have recorded := recorded_of_run lawful run
  have paired := TcpClientTransport.paired_of_run (stable_correlated client.headers)
    (transport_of_run run)
  obtain ⟨invocation, outgoing, call, responseFrame, pool, after, sent_found, call_found, finished,
    received⟩ := recorded.returned returned
  obtain ⟨frame, rpcResponse, rfl, decoded, -, copied⟩ := invokeAsyncReceive_ok received
  obtain ⟨id_eq, known, known_found, frame_eq⟩ := recorded.sent sent_found
  obtain rfl : call = known := Option.some.inj (call_found.symm.trans known_found)
  have ok := paired.calls call_found
  simp only [TcpClientTransport.PhaseOk, finished] at ok
  obtain ⟨number, socket, index, socket_found, request_found, answer_found⟩ := ok
  have same_id := (paired.kept socket_found).2 index _ frame rpcResponse request_found answer_found
    decoded
  rw [frame_eq, id_eq] at same_id
  exact ⟨invocation, outgoing, call, frame, rpcResponse, sent_found, call_found, frame_eq, id_eq,
    finished, decoded, ⟨_, copied⟩, (Option.some.inj same_id).symm⟩

/-! ## One connection, two calls -/

/-- A call with this request. -/
def sampleInvocation (name : Bytes) : Invocation Proto3.BytesMessage where
  method := ⟨text "S", text "M"⟩
  request := ⟨text "T", name, []⟩
  response := ⟨text "T", [], []⟩

/-- A resolver that always names one endpoint. -/
def resolvedInstance : Except RpcError ServiceInstance :=
  .ok ⟨text "instance", text "127.0.0.1", 9000⟩

/-- The successful response to request 1. -/
def firstResponse : Bytes := [0, 0, 0, 11, 0, 0, 0, 4, 8, 1, 32, 3, 10, 1, 65]

/-- The first call connects and sends its request. -/
def firstSent : List (Event Proto3.BytesMessage) :=
  [.invoke (sampleInvocation []) resolvedInstance, .move 0 (.borrow .ready),
    .move 0 (.connect (.connected 5)), .move 0 (.send (.written 16))]

/-- The first call reads its response and returns. -/
def firstReturns : List (Event Proto3.BytesMessage) :=
  [.move 0 (.recv (.bytes 4)), .move 0 (.recv (.bytes 11)), .move 0 .giveBack, .resume 0]

/-- The second call sends on the connection of the first one. -/
def secondSent : List (Event Proto3.BytesMessage) :=
  [.invoke (sampleInvocation [66]) resolvedInstance, .move 1 (.borrow .ready),
    .move 1 (.send (.written 21))]

/-- The second call reads and returns. -/
def secondReturns : List (Event Proto3.BytesMessage) :=
  [.move 1 (.recv (.bytes 4)), .move 1 (.recv (.bytes 11)), .move 1 .giveBack, .resume 1]

/-- After a peer sent the response to the first call twice, the second call succeeds with it. -/
theorem duplicate_taken_for_own_response :
    ¬ ∀ session, Run bytesClient (fun _ => []) (fun _ _ => True) session → ∀ id response,
      session.returned id = some (.ok (), response) →
        TookOwnResponse bytesClient session id response := by
  intro always
  have performed : (bytesClient.perform (fun _ => []) {} (firstSent ++
      .peerWrite 5 (firstResponse ++ firstResponse) ::
        (firstReturns ++ (secondSent ++ secondReturns)))).map
      (fun session => (session.returned 1, (session.sent 1).map fun known => known.2.requestId,
        (session.transport.calls 1).map TcpClientTransport.Call.phase)) =
      some (some (.ok (), ⟨text "T", [65], []⟩), some 2,
        some (.finished (.ok firstResponse))) := by
    decide +kernel
  simp only [Option.map_eq_some_iff, Prod.mk.injEq] at performed
  obtain ⟨session, performed, returned, ⟨known, sent_found, id_eq⟩, call, call_found, phase_eq⟩ :=
    performed
  obtain ⟨invocation, outgoing, taken, frame, rpcResponse, taken_sent, taken_call, -, -, finished,
    decoded, -, same_id⟩ := always session (Run.initial.perform (by simp) performed) 1 _ returned
  obtain rfl : call = taken := Option.some.inj (call_found.symm.trans taken_call)
  obtain rfl : known = (invocation, outgoing) :=
    Option.some.inj (sent_found.symm.trans taken_sent)
  obtain rfl : firstResponse = frame := by simpa [phase_eq] using finished
  have first : RpcCodec.decodeResponse Proto3.headers firstResponse =
      .ok ⟨1, kOk, [], [10, 1, 65]⟩ := by decide +kernel
  obtain rfl : ⟨1, kOk, [], [10, 1, 65]⟩ = rpcResponse := Except.ok.inj (first.symm.trans decoded)
  exact absurd (same_id.trans id_eq) (by decide)

/-- Each frame of the peer answers the request at its place. -/
theorem correlated_of_frames {headers : HeaderCodec} {socket : Socket} {answers : List Bytes}
    (written_eq : socket.written = answers.flatten) (frames : ∀ answer ∈ answers, IsFrame answer)
    (few : answers.length ≤ socket.requests.length)
    (matching : ∀ pair ∈ socket.requests.zip answers, ∃ response,
      RpcCodec.decodeResponse headers pair.2 = .ok response ∧
        RpcCodec.wireRequestId headers pair.1.frame = some response.requestId) :
    Correlated headers socket := by
  have split_eq : (frameCutter.split socket.written).items = answers := by
    have cut := frameCutter_split_frames frames []
    rw [List.append_nil, frameCutter_split_nil, List.append_nil] at cut
    rw [written_eq, cut]
  simp only [Correlated, split_eq]
  refine ⟨few, ?_⟩
  intro index request answer response request_found answer_found decoded
  have pair_found : (socket.requests.zip answers)[index]? = some (request, answer) :=
    List.getElem?_zip_eq_some.mpr ⟨request_found, answer_found⟩
  obtain ⟨own, own_decoded, own_id⟩ := matching _ (List.mem_of_getElem? pair_found)
  obtain rfl := Except.ok.inj (own_decoded.symm.trans decoded)
  exact own_id

/-- A peer may write when its frames so far and the new one answer the requests at their places. -/
theorem peersWrite_of_frames {session : Session Proto3.BytesMessage} {fd : Fd}
    {requests : List Posted} {before : List Bytes} {answer : Bytes}
    (at_fd : ∃ found, session.transport.socketAt fd = some found ∧ found.2.requests = requests ∧
      found.2.written = before.flatten)
    (frames : ∀ frame ∈ before ++ [answer], IsFrame frame)
    (few : before.length < requests.length)
    (matching : ∀ pair ∈ requests.zip (before ++ [answer]), ∃ response,
      RpcCodec.decodeResponse Proto3.headers pair.2 = .ok response ∧
        RpcCodec.wireRequestId Proto3.headers pair.1.frame = some response.requestId) :
    PeersWrite (Correlated Proto3.headers) session (.peerWrite fd answer) := by
  intro number socket socket_at
  obtain ⟨found, found_at, rfl, written_eq⟩ := at_fd
  obtain rfl := Option.some.inj (found_at.symm.trans socket_at)
  refine correlated_of_frames ?_ frames (by
    simpa [Socket.write, Nat.succ_le_iff] using few) matching
  rw [Socket.write, written_eq, List.flatten_append, List.flatten_singleton]

/-- The requests of both calls. -/
def sampleRequests : List Posted :=
  [⟨0, [0, 0, 0, 12, 0, 0, 0, 8, 8, 1, 18, 1, 83, 26, 1, 77]⟩,
    ⟨1, [0, 0, 0, 17, 0, 0, 0, 10, 8, 2, 18, 1, 83, 26, 1, 77, 32, 3, 10, 1, 66]⟩]

/-- The successful response to request 2. -/
def secondResponse : Bytes := [0, 0, 0, 11, 0, 0, 0, 4, 8, 2, 32, 3, 10, 1, 66]

local instance decidableEqReturned : DecidableEq (Except RpcError Unit × Proto3.BytesMessage) :=
  inferInstance

/-- Two calls over one connection, whose peer answers each once. -/
theorem pooled_calls_take_own_responses :
    ∃ session, Run bytesClient (fun _ => []) (PeersWrite (Correlated Proto3.headers)) session ∧
      TookOwnResponse bytesClient session 0 ⟨text "T", [65], []⟩ ∧
      TookOwnResponse bytesClient session 1 ⟨text "T", [66], []⟩ := by
  have performed : (bytesClient.perform (fun _ => []) {} firstSent).bind (fun first =>
      (bytesClient.step (fun _ => []) first (.peerWrite 5 firstResponse)).bind fun answered =>
        (bytesClient.perform (fun _ => []) answered (firstReturns ++ secondSent)).bind fun second =>
          (bytesClient.step (fun _ => []) second (.peerWrite 5 secondResponse)).bind fun again =>
            (bytesClient.perform (fun _ => []) again secondReturns).map fun last =>
              ([first, second].map fun session => (session.transport.socketAt 5).map fun found =>
                  (found.2.requests, found.2.written),
                [last.returned 0, last.returned 1])) =
      some ([some (sampleRequests.take 1, []), some (sampleRequests, firstResponse)],
        [some (.ok (), ⟨text "T", [65], []⟩), some (.ok (), ⟨text "T", [66], []⟩)]) := by
    decide +kernel
  simp only [Option.bind_eq_some_iff, Option.map_eq_some_iff, Prod.mk.injEq, List.map_cons,
    List.map_nil, List.cons.injEq, and_true] at performed
  obtain ⟨first, sent, answered, wrote, second, sent_again, again, wrote_again, last, returns,
    ⟨first_at, second_at⟩, first_returned, second_returned⟩ := performed
  have first_decoded : RpcCodec.decodeResponse Proto3.headers firstResponse =
      .ok ⟨1, kOk, [], [10, 1, 65]⟩ := by decide +kernel
  have second_decoded : RpcCodec.decodeResponse Proto3.headers secondResponse =
      .ok ⟨2, kOk, [], [10, 1, 66]⟩ := by decide +kernel
  have first_run : Run bytesClient (fun _ => []) (PeersWrite (Correlated Proto3.headers)) first :=
    Run.initial.perform (by simp [firstSent, PeersWrite]) sent
  have answered_run := first_run.step (.peerWrite 5 firstResponse)
    (@peersWrite_of_frames _ _ _ [] _ first_at (by decide) (by decide) (by
      intro pair member
      obtain rfl := List.mem_singleton.mp member
      exact ⟨_, first_decoded, by decide +kernel⟩)) wrote
  have second_run := answered_run.perform (by simp [firstReturns, secondSent, PeersWrite])
    sent_again
  have again_run := second_run.step (.peerWrite 5 secondResponse)
    (@peersWrite_of_frames _ _ _ [firstResponse] _ second_at (by decide) (by decide) (by
      intro pair member
      simp only [sampleRequests, List.singleton_append, List.zip_cons_cons, List.zip_nil_right,
        List.mem_cons, List.not_mem_nil, or_false] at member
      rcases member with rfl | rfl
      · exact ⟨_, first_decoded, by decide +kernel⟩
      · exact ⟨_, second_decoded, by decide +kernel⟩)) wrote_again
  have last_run := again_run.perform (by simp [secondReturns, PeersWrite]) returns
  exact ⟨last, last_run,
    success_takes_own_response bytesClient _ Proto3.headers_lawful last_run first_returned,
    success_takes_own_response bytesClient _ Proto3.headers_lawful last_run second_returned⟩

end RpcClient

end Hxrpc
