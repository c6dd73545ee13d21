import Hxrpc.Network

/-!
# Answers on a network

Whatever the interleaving, a call that succeeds returns what a service of its endpoint produced for
its own request, and no call is handled twice.
-/

namespace Hxrpc

open BigEndian StreamCut RpcServer TcpClientTransport

namespace Cluster

variable {Message : Type}

/-! ## Calls that returned -/

section Returned

variable {client : RpcClient Message} {strerror : Nat → Bytes}
  {session next : RpcClient.Session Message}

/-- The round trip of a call returned. -/
def Finished (session : RpcClient.Session Message) (id : Nat) (invocation : Invocation Message)
    (outgoing : Outgoing) (responseFrame : Except RpcError Bytes) : Prop :=
  session.sent id = some (invocation, outgoing) ∧
    ∃ call, session.transport.calls id = some call ∧ call.phase = .finished responseFrame

theorem Finished.step {event : RpcClient.Event Message} {id : Nat}
    {invocation : Invocation Message} {outgoing : Outgoing}
    {responseFrame : Except RpcError Bytes} (recorded : RpcClient.Recorded client session)
    (finished : Finished session id invocation outgoing responseFrame)
    (moved : client.step strerror session event = some next) :
    Finished next id invocation outgoing responseFrame := by
  obtain ⟨sent_found, call, call_found, phase_eq⟩ := finished
  cases RpcClient.stepped_of_step moved with
  | refused failed => exact ⟨sent_found, call, call_found, phase_eq⟩
  | sent encoded carried =>
      have ne : id ≠ session.transport.started := by
        rintro rfl
        simp [recorded.fresh le_rfl] at sent_found
      obtain rfl := Option.some.inj carried
      exact ⟨(Function.update_of_ne ne _ _).trans sent_found, call,
        (Function.update_of_ne ne _ _).trans call_found, phase_eq⟩
  | @move place _ _ carried =>
      simp only [TcpClientTransport.step, Option.bind_eq_bind, Option.bind_eq_some_iff] at carried
      obtain ⟨mover, mover_found, carried⟩ := carried
      obtain ⟨⟨-, phase, calls_eq⟩, unfinished⟩ := goesOn_move carried
      have ne : id ≠ place := by
        rintro rfl
        cases mover_found.symm.trans call_found
        exact unfinished responseFrame phase_eq
      exact ⟨sent_found, call, by rw [calls_eq, Function.update_of_ne ne, call_found], phase_eq⟩
  | peerWrite carried =>
      simp only [TcpClientTransport.step, Option.bind_eq_bind, Option.bind_eq_some_iff,
        Option.pure_def, Option.some.injEq] at carried
      obtain ⟨_, -, rfl⟩ := carried
      exact ⟨sent_found, call, call_found, phase_eq⟩
  | resume found under_way ended waiting received => exact ⟨sent_found, call, call_found, phase_eq⟩

/-- A call that returned took the result of its round trip, with a message pool in order. -/
theorem received_of_run (headers_lawful : client.headers.Lawful)
    (lawful : client.messages.Lawful)
    {allowed : RpcClient.Session Message → RpcClient.Event Message → Prop}
    (run : RpcClient.Run client strerror allowed session) {id : Nat}
    {result : Except RpcError Unit} {response : Message}
    (returned : session.returned id = some (result, response)) :
    ∃ invocation outgoing responseFrame pool after, pool.Typed client.messages ∧
      Finished session id invocation outgoing responseFrame ∧
      client.invokeAsyncReceive pool invocation.response responseFrame =
        (result, response, after) := by
  induction run with
  | initial => simp at returned
  | @step session next event before permitted moved ih =>
      have recorded := RpcClient.recorded_of_run headers_lawful before
      have earlier : session.returned id = some (result, response) →
          ∃ invocation outgoing responseFrame pool after, pool.Typed client.messages ∧
            Finished next id invocation outgoing responseFrame ∧
            client.invokeAsyncReceive pool invocation.response responseFrame =
              (result, response, after) := by
        intro known
        obtain ⟨invocation, outgoing, responseFrame, pool, after, typed, finished, received⟩ :=
          ih known
        exact ⟨invocation, outgoing, responseFrame, pool, after, typed,
          finished.step recorded moved, received⟩
      cases RpcClient.stepped_of_step moved with
      | refused failed => exact earlier returned
      | sent encoded carried => exact earlier returned
      | move carried => exact earlier returned
      | peerWrite carried => exact earlier returned
      | @resume place invocation outgoing call responseFrame _ _ messagePool found under_way ended
          waiting received =>
          by_cases same : id = place
          · subst same
            simp only [Function.update_self, Option.some.injEq, Prod.mk.injEq] at returned
            obtain ⟨rfl, rfl⟩ := returned
            exact ⟨invocation, outgoing, responseFrame, session.messagePool, messagePool,
              RpcClient.typed_of_run lawful before, ⟨found, call, under_way, ended⟩, received⟩
          · simp only [Function.update_of_ne same] at returned
            exact earlier returned

end Returned

/-! ## One client and one server -/

section Sample

deriving instance DecidableEq for Invocation

/-- Every server process listens here and joins requests with their metadata. -/
def joinCluster : Cluster Proto3.BytesMessage where
  client := RpcDispatcher.joinDispatcher.client
  address _ := ⟨text "127.0.0.1", 9000⟩
  registry _ := RpcDispatcher.joinDispatcher.registry

/-- The resolver names one endpoint. -/
def joinResolved : Except RpcError ServiceInstance :=
  .ok ⟨text "instance", text "127.0.0.1", 9000⟩

/-- The call connects and sends its request. -/
def joinMoves : List (RpcClient.Event Proto3.BytesMessage) :=
  [.move 0 (.borrow .ready), .move 0 (.connect (.connected 5)), .move 0 (.send (.written 5)),
    .move 0 (.send .eintr), .move 0 (.send (.written 19))]

/-- It reads its response and returns. -/
def joinReturns : List (RpcClient.Event Proto3.BytesMessage) :=
  [.move 0 (.recv (.bytes 4)), .move 0 (.recv (.bytes 12)), .move 0 .giveBack, .resume 0]

/-- The connection of the call when its request was sent. -/
def joinSocket : Socket where
  endpoint := ⟨text "127.0.0.1", 9000⟩
  requests := [⟨0, RpcDispatcher.joinRequest⟩]
  completed := 1
  holder := some 0

/-- Several steps of one client. -/
theorem Reachable.perform {Message : Type} {cluster : Cluster Message} {strerror : Nat → Bytes}
    {network : Network Message} (reachable : cluster.Reachable strerror network) (number : Nat)
    {events : List (RpcClient.Event Message)} {session : RpcClient.Session Message}
    (bounded : ∀ event ∈ events, ∀ session, cluster.Bounded session event)
    (performed : cluster.client.perform strerror (network.clients number) events = some session) :
    ∃ wires, cluster.Reachable strerror { network with
      clients := Function.update network.clients number session
      wires := Function.update network.wires number wires } := by
  refine holds_of_foldlM (fun session => ∃ wires, cluster.Reachable strerror { network with
    clients := Function.update network.clients number session
    wires := Function.update network.wires number wires })
    ⟨network.wires number, by simpa using reachable⟩ ?_ performed
  rintro session behind event ⟨wires, before⟩ member moved
  have after := before.step
    (.client _ number event (bounded event member _) (by simpa using moved))
  exact ⟨_, by simpa using after⟩

/-- Several steps of a server process that no client is connected to. -/
theorem Reachable.serve {Message : Type} {cluster : Cluster Message} {strerror : Nat → Bytes}
    {network : Network Message} (reachable : cluster.Reachable strerror network) (process : Nat)
    (unlinked : ∀ number place, network.links number place = none)
    {loop : Loop (MessagePool Message)}
    (steps : Relation.ReflTransGen (Reactor.Step (onFrame (cluster.dispatcher process))
      fun _ _ => True) (network.servers process) loop) :
    cluster.Reachable strerror
      { network with servers := Function.update network.servers process loop } := by
  induction steps with
  | refl => simpa using reachable
  | @tail middle loop _ moved ih =>
      have next := ih.step (.server _ process (by simpa using moved) (by simp [unlinked]))
      simpa using next

theorem bounded_joinInvocation :
    joinCluster.Bounded {} (.invoke RpcDispatcher.joinInvocation joinResolved) := by
  have sent : joinCluster.client.invokeAsyncSend 1 RpcDispatcher.joinInvocation joinResolved =
      (.ok ⟨1, ⟨text "127.0.0.1", 9000⟩, RpcDispatcher.joinRequest⟩, 2) := by
    decide +kernel
  intro outgoing nextRequestId encoded
  obtain ⟨rfl, -⟩ : ⟨1, ⟨text "127.0.0.1", 9000⟩, RpcDispatcher.joinRequest⟩ = outgoing ∧
      2 = nextRequestId := by
    simpa using sent.symm.trans encoded
  refine ⟨by decide, fun process _ => ?_⟩
  have short : Short (reply RpcDispatcher.joinDispatcher RpcDispatcher.joinRequest) := by
    decide +kernel
  exact short

set_option synthInstance.maxSize 512 in
/-- The steps of the client around the answer of the server. -/
theorem exists_joinSession : ∃ invoked session answered last,
    joinCluster.client.step (fun _ => []) {} (.invoke RpcDispatcher.joinInvocation joinResolved) =
        some invoked ∧
      joinCluster.client.perform (fun _ => []) invoked joinMoves = some session ∧
      joinCluster.client.step (fun _ => []) session (.peerWrite 5 RpcDispatcher.joinResponse) =
        some answered ∧
      joinCluster.client.perform (fun _ => []) answered joinReturns = some last ∧
      session.transport.socketAt 5 = some (0, joinSocket) ∧
      last.returned 0 = some (.ok (), ⟨text "T", [65, 66], []⟩) ∧
      last.sent 0 = some (RpcDispatcher.joinInvocation,
        ⟨1, ⟨text "127.0.0.1", 9000⟩, RpcDispatcher.joinRequest⟩) := by
  have performed : (joinCluster.client.step (fun _ => []) {}
      (.invoke RpcDispatcher.joinInvocation joinResolved)).bind (fun invoked =>
        (joinCluster.client.perform (fun _ => []) invoked joinMoves).bind fun session =>
          (joinCluster.client.step (fun _ => []) session
            (.peerWrite 5 RpcDispatcher.joinResponse)).bind fun answered =>
              (joinCluster.client.perform (fun _ => []) answered joinReturns).map fun last =>
                (session.transport.socketAt 5, last.returned 0, last.sent 0)) =
      some (some (0, joinSocket), some (.ok (), ⟨text "T", [65, 66], []⟩),
        some (RpcDispatcher.joinInvocation,
          ⟨1, ⟨text "127.0.0.1", 9000⟩, RpcDispatcher.joinRequest⟩)) := by
    decide +kernel
  simp only [Option.bind_eq_some_iff, Option.map_eq_some_iff, Prod.mk.injEq] at performed
  obtain ⟨invoked, invokes, session, moves, answered, arrives, last, returns, at_fd, returned,
    sent⟩ := performed
  exact ⟨invoked, session, answered, last, invokes, moves, arrives, returns, at_fd, returned, sent⟩

/-- The server process with one connection, which is readable. -/
def joinLoop : Loop (MessagePool Proto3.BytesMessage) where
  server := ConnectionManager.oneConnection {}
  batch := [⟨5, { epollin := true }, .connection 0⟩]

/-- The server process reads the request and answers it. -/
theorem exists_answeredLoop : ∃ loop,
    Reactor.Step (onFrame (joinCluster.dispatcher 0)) (fun _ _ => True) joinLoop loop ∧
    (loop.server.journal 0).received = RpcDispatcher.joinRequest ∧
    (loop.server.journal 0).accepted = RpcDispatcher.joinResponse := by
  have handled : (Reactor.turn (onFrame (joinCluster.dispatcher 0)) RpcDispatcher.joinScript
      joinLoop).toOption.map (fun loop =>
        ((loop.server.journal 0).received, (loop.server.journal 0).accepted)) =
      some (RpcDispatcher.joinRequest, RpcDispatcher.joinResponse) := by
    decide +kernel
  cases ok : Reactor.turn (onFrame (joinCluster.dispatcher 0)) RpcDispatcher.joinScript
      joinLoop with
  | error dangling => simp [ok, Except.toOption] at handled
  | ok loop =>
      simp only [ok, Except.toOption, Option.map_some, Option.some.injEq, Prod.mk.injEq] at handled
      exact ⟨loop, .turn RpcDispatcher.joinScript trivial ok, handled⟩

/-- The server waits with one connection, and the call has sent its request. -/
theorem exists_requestedNetwork {invoked session : RpcClient.Session Proto3.BytesMessage}
    (invokes : joinCluster.client.step (fun _ => []) {}
      (.invoke RpcDispatcher.joinInvocation joinResolved) = some invoked)
    (moves : joinCluster.client.perform (fun _ => []) invoked joinMoves = some session)
    (found : session.transport.sockets 0 = some joinSocket) :
    ∃ network, joinCluster.Reachable (fun _ => []) network ∧ network.clients 0 = session ∧
      network.servers 0 = joinLoop ∧ network.wires 0 0 = RpcDispatcher.joinRequest ∧
      ∀ number place, network.links number place = none := by
  obtain ⟨outcome, server, listened, steps⟩ :=
    reachable_oneConnection (onFrame (joinCluster.dispatcher 0)) {}
  have start : joinCluster.Reachable (fun _ => []) { servers := fun _ => { server := server } } :=
    .initial _ fun _ => ⟨outcome, server, listened, rfl⟩
  have waits : Reactor.Step (onFrame (joinCluster.dispatcher 0)) (fun _ _ => True)
      { server := ConnectionManager.oneConnection {} } joinLoop :=
    .wait _ ⟨by decide, by decide, by decide⟩
  have waiting := start.serve 0 (fun _ _ => rfl) (steps.tail waits)
  have called := waiting.step (.client _ 0 _ bounded_joinInvocation invokes)
  have moves_bounded : ∀ event ∈ joinMoves, ∀ session, joinCluster.Bounded session event := by
    simp [joinMoves, Cluster.Bounded]
  obtain ⟨wires, requested⟩ := called.perform 0 moves_bounded (by simpa using moves)
  refine ⟨_, requested, by simp, by simp, ?_, fun _ _ => rfl⟩
  have wired := (sane_of_reachable requested).wired 0
  simp only [Function.update_self] at wired ⊢
  simpa [posted, joinSocket] using wired.whole found rfl

/-- The server answers the request, and the answer arrives. -/
theorem exists_answeredNetwork {network : Network Proto3.BytesMessage}
    (reachable : joinCluster.Reachable (fun _ => []) network)
    {answered : RpcClient.Session Proto3.BytesMessage} (server_eq : network.servers 0 = joinLoop)
    (wire_eq : network.wires 0 0 = RpcDispatcher.joinRequest)
    (unlinked : ∀ number place, network.links number place = none)
    (at_fd : (network.clients 0).transport.socketAt 5 = some (0, joinSocket))
    (arrives : joinCluster.client.step (fun _ => []) (network.clients 0)
      (.peerWrite 5 RpcDispatcher.joinResponse) = some answered) :
    ∃ later, joinCluster.Reachable (fun _ => []) later ∧ later.clients 0 = answered := by
  obtain ⟨loop, read, received_eq, accepted_eq⟩ := exists_answeredLoop
  let joined : Network Proto3.BytesMessage := { network with
    links := Function.update network.links 0 (Function.update (network.links 0) 0 (some (0, 0))) }
  have linked : joinCluster.Reachable (fun _ => []) joined :=
    reachable.step (.link network 0 0 0 0 (socketAt_eq_some.mp at_fd).2 rfl
      (by rw [server_eq]; decide) (by rw [server_eq]; rfl) (unlinked 0 0) (by simp [unlinked]))
  have here : joined.links 0 0 = some (0, 0) := by simp [joined]
  have only : ∀ number place incarnation, joined.links number place = some (0, incarnation) →
      number = 0 ∧ place = 0 ∧ incarnation = 0 := by
    intro number place incarnation found
    obtain ⟨rfl, rfl⟩ : number = 0 ∧ place = 0 := by
      by_contra elsewhere
      by_cases same : number = 0
      · subst same
        have ne : place ≠ 0 := fun place_eq => elsewhere ⟨rfl, place_eq⟩
        simp [joined, Function.update_of_ne ne, unlinked] at found
      · simp [joined, Function.update_of_ne same, unlinked] at found
    simpa [eq_comm] using here.symm.trans found
  have arrived : ∀ number place incarnation, joined.links number place = some (0, incarnation) →
      (loop.server.journal incarnation).received <+: joined.wires number place := by
    intro number place incarnation found
    obtain ⟨rfl, rfl, rfl⟩ := only number place incarnation found
    rw [received_eq]
    exact wire_eq ▸ List.prefix_refl _
  have served := linked.step (.server joined 0 (server_eq ▸ read) arrived)
  have delivered := served.step (.arrive _ 0 5 RpcDispatcher.joinResponse at_fd here
    (by simp [accepted_eq, joinSocket]) arrives)
  exact ⟨_, delivered, by simp⟩

/-- The call, the server's answer and the return of the call. -/
theorem exists_joinNetwork : ∃ network, joinCluster.Reachable (fun _ => []) network ∧
    (network.clients 0).returned 0 = some (.ok (), ⟨text "T", [65, 66], []⟩) ∧
    (network.clients 0).sent 0 =
      some (RpcDispatcher.joinInvocation,
        ⟨1, ⟨text "127.0.0.1", 9000⟩, RpcDispatcher.joinRequest⟩) := by
  obtain ⟨invoked, session, answered, last, invokes, moves, arrives, returns, at_fd, returned,
    sent⟩ := exists_joinSession
  obtain ⟨network, requested, rfl, server_eq, wire_eq, unlinked⟩ :=
    exists_requestedNetwork invokes moves (socketAt_eq_some.mp at_fd).2
  obtain ⟨later, delivered, rfl⟩ :=
    exists_answeredNetwork requested server_eq wire_eq unlinked at_fd arrives
  have returns_bounded : ∀ event ∈ joinReturns, ∀ session, joinCluster.Bounded session event := by
    simp [joinReturns, Cluster.Bounded]
  obtain ⟨wires, finished⟩ := delivered.perform 0 returns_bounded returns
  exact ⟨_, finished, by simpa using returned, by simpa using sent⟩

end Sample

/-! ## Every call -/

section Calls

variable {cluster : Cluster Message} {strerror : Nat → Bytes} {network : Network Message}

/-- A server process handled the request of a call, as the frame at this place of one accepted
socket. -/
def Executed (network : Network Message) (number id process incarnation index : Nat) : Prop :=
  ∃ place socket request, network.links number place = some (process, incarnation) ∧
    (network.clients number).transport.sockets place = some socket ∧
    socket.requests[index]? = some request ∧ request.call = id ∧
    ((network.servers process).server.journal incarnation).delivered[index]? = some request.frame

/-- A round trip that returned a frame returned the reply to its own request, from a process that
listens on the resolved endpoint. -/
theorem Sane.answered (sane : cluster.Sane strerror network)
    (headers_lawful : cluster.client.headers.Lawful) (lawful : cluster.client.messages.Lawful)
    {number id : Nat} {invocation : Invocation Message} {outgoing : Outgoing} {frame : Bytes}
    (finished : Finished (network.clients number) id invocation outgoing (.ok frame)) :
    ∃ process incarnation index payload,
      Executed network number id process incarnation index ∧
      cluster.address process = outgoing.endpoint ∧
      frame = reply (cluster.dispatcher process) outgoing.frame ∧ IsFrame frame ∧
      IsFrame outgoing.frame ∧
      ProtobufSerializer.serialize cluster.client.messages invocation.request = .ok payload ∧
      RpcCodec.encodeRequest cluster.client.headers
        (RpcDispatcher.rpcRequest invocation outgoing.requestId payload) = .ok outgoing.frame := by
  obtain ⟨sent_found, call, call_found, phase_eq⟩ := finished
  have ok := (paired_of_session (sane.runs number)).calls call_found
  simp only [PhaseOk, phase_eq] at ok
  obtain ⟨place, socket, index, found, request_found, answer_found⟩ := ok
  obtain ⟨known, known_invocation, known_outgoing, payload, known_found, -, known_sent, frame_eq,
    endpoint_eq, serialized, encoded, -, -⟩ := sane.request found request_found
  obtain ⟨rfl, rfl⟩ : invocation = known_invocation ∧ outgoing = known_outgoing := by
    simpa [sent_found] using known_sent
  cases linked : network.links number place with
  | none =>
      rw [sane.unlinked linked found, frameCutter_split_nil] at answer_found
      simp at answer_found
  | some pair =>
      obtain ⟨process, incarnation⟩ := pair
      obtain ⟨twin, link⟩ := sane.linked linked
      obtain rfl : socket = twin := Option.some.inj (found.symm.trans link.found)
      have answer_member := isFrame_of_mem_items (List.mem_of_getElem? answer_found)
      have replied := getElem?_eq_some_of_begins (sane.written_begins headers_lawful lawful link)
        answer_found
      rw [List.getElem?_map, Option.map_eq_some_iff] at replied
      obtain ⟨delivered, delivered_found, reply_eq⟩ := replied
      obtain ⟨begins, frames⟩ := sane.delivered_begins headers_lawful lawful link
      have posted_found := getElem?_eq_some_of_begins begins delivered_found
      rw [List.getElem?_map, request_found] at posted_found
      obtain rfl := Option.some.inj posted_found
      have isFrame := frames _ (List.mem_of_getElem? delivered_found)
      simp only at frame_eq
      exact ⟨process, incarnation, index, payload,
        ⟨place, socket, _, linked, found, request_found, rfl, delivered_found⟩,
        link.address_eq.trans endpoint_eq, frame_eq ▸ reply_eq.symm, answer_member,
        frame_eq ▸ isFrame, serialized, encoded⟩

/-- In every run of any number of clients and servers, a call that fails leaves the caller's
response object as it was.  Where client and servers agree on the message types, a call that
succeeds returns what a service of the resolved endpoint produced for exactly its own request and
metadata, and the error of a call that fails is that of its own round trip or the one that the
server has for its own request. -/
theorem calls_get_their_own_answers (headers_lawful : cluster.client.headers.Lawful)
    (lawful : cluster.client.messages.Lawful) (round_trips : cluster.client.messages.RoundTrips)
    (reachable : cluster.Reachable strerror network)
    {number id : Nat} {result : Except RpcError Unit} {response : Message}
    (returned : (network.clients number).returned id = some (result, response)) :
    ∃ invocation outgoing, (network.clients number).sent id = some (invocation, outgoing) ∧
      (∀ error, result = .error error → response = invocation.response) ∧
      ((∀ process, cluster.address process = outgoing.endpoint →
          (cluster.dispatcher process).SameTypes invocation) →
        match result with
        | .ok () => ∃ process registered, cluster.address process = outgoing.endpoint ∧
            (cluster.registry process).find invocation.method.serviceName invocation.method.name =
              .ok registered ∧
            (registered.produce invocation.request invocation.options.metadata).doneCalled =
              true ∧
            response =
              (registered.produce invocation.request invocation.options.metadata).response
        | .error error =>
            (∃ call, (network.clients number).transport.calls id = some call ∧
              call.phase = .finished (.error error)) ∨
            ∃ process, cluster.address process = outgoing.endpoint ∧
              (cluster.dispatcher process).respond outgoing.frame = .error error) := by
  have sane := sane_of_reachable reachable
  obtain ⟨invocation, outgoing, responseFrame, pool, after, typed, finished, received⟩ :=
    received_of_run headers_lawful lawful (sane.runs number) returned
  refine ⟨invocation, outgoing, finished.1, ?_, fun same_types => ?_⟩
  · rintro error rfl
    exact RpcClient.invokeAsyncReceive_error received
  cases responseFrame with
  | error error =>
      obtain ⟨rfl, rfl, -⟩ : Except.error error = result ∧ invocation.response = response ∧
          pool = after := by
        simpa [RpcClient.invokeAsyncReceive] using received
      exact Or.inl finished.2
  | ok frame =>
      obtain ⟨process, incarnation, index, payload, -, address_eq, rfl, reply_frame, request_frame,
        serialized, encoded⟩ := sane.answered headers_lawful lawful finished
      obtain ⟨header, -, framed⟩ := RpcCodec.encodeRequest_eq_ok encoded
      obtain ⟨answer, answer_encoded⟩ : ∃ answer, RpcCodec.encodeResponse
          (cluster.dispatcher process).headers answer =
            .ok (reply (cluster.dispatcher process) outgoing.frame) :=
        exists_encodeResponse_reply headers_lawful outgoing.frame
      obtain ⟨answer_header, -, answer_framed⟩ := RpcCodec.encodeResponse_eq_ok answer_encoded
      have outcome := RpcDispatcher.invokeAsyncReceive_reply headers_lawful lawful round_trips
        typed serialized encoded ((isFrame_of_encodeFrame_iff framed).mp request_frame)
        ((isFrame_of_encodeFrame_iff answer_framed).mp reply_frame) (same_types process address_eq)
      cases responded : (cluster.dispatcher process).respond outgoing.frame with
      | ok value =>
          simp only [responded] at outcome
          obtain ⟨registered, pool_after, found, done, same⟩ := outcome
          have both := received.symm.trans same
          simp only [Prod.mk.injEq] at both
          obtain ⟨rfl, rfl, -⟩ := both
          exact ⟨process, registered, address_eq, found, done, rfl⟩
      | error error =>
          simp only [responded] at outcome
          have both := received.symm.trans outcome
          simp only [Prod.mk.injEq] at both
          obtain ⟨rfl, rfl, -⟩ := both
          exact Or.inr ⟨process, address_eq, responded⟩

theorem joinCall_gets_its_answer : ∃ network, joinCluster.Reachable (fun _ => []) network ∧
    (network.clients 0).returned 0 = some (.ok (), ⟨text "T", [65, 66], []⟩) ∧
    ∃ process registered,
      (joinCluster.registry process).find (text "S") (text "M") = .ok registered ∧
      ⟨text "T", [65, 66], []⟩ = (registered.produce ⟨text "T", [65], []⟩ [66]).response := by
  obtain ⟨network, reachable, returned, sent⟩ := exists_joinNetwork
  obtain ⟨invocation, outgoing, found, -, answer⟩ := calls_get_their_own_answers
    Proto3.headers_lawful Proto3.messages_lawful Proto3.messages_roundTrips reachable returned
  obtain ⟨rfl, rfl⟩ : RpcDispatcher.joinInvocation = invocation ∧ _ = outgoing := by
    simpa using sent.symm.trans found
  have only : RpcDispatcher.joinDispatcher.registry.find (text "S") (text "M") =
      .ok ⟨text "S", text "M", RpcDispatcher.joinService, ⟨text "S", text "M"⟩⟩ := rfl
  obtain ⟨process, registered, -, registered_found, -, response_eq⟩ := answer (by
    intro process _ registered registered_found
    obtain rfl := Except.ok.inj (only.symm.trans registered_found)
    exact ⟨rfl, rfl⟩)
  exact ⟨network, reachable, returned, process, registered, registered_found, response_eq⟩

/-- Whatever a server delivers on a connection of a client is the request of one of its calls, no
call is delivered twice and no two calls at one place, and a call that succeeds was delivered. -/
theorem executed_at_most_once (headers_lawful : cluster.client.headers.Lawful)
    (lawful : cluster.client.messages.Lawful) (reachable : cluster.Reachable strerror network) :
    (∀ number place process incarnation index frame,
      network.links number place = some (process, incarnation) →
      ((network.servers process).server.journal incarnation).delivered[index]? = some frame →
      ∃ id invocation outgoing, Executed network number id process incarnation index ∧
        (network.clients number).sent id = some (invocation, outgoing) ∧
        frame = outgoing.frame ∧ cluster.address process = outgoing.endpoint) ∧
    (∀ number id process incarnation index, Executed network number id process incarnation index →
      (∀ other twin place, Executed network number id other twin place →
        process = other ∧ incarnation = twin ∧ index = place) ∧
      ∀ other call, Executed network other call process incarnation index →
        number = other ∧ id = call) ∧
    ∀ number id response, (network.clients number).returned id = some (.ok (), response) →
      ∃ process incarnation index, Executed network number id process incarnation index := by
  have sane := sane_of_reachable reachable
  refine ⟨?_, ?_, ?_⟩
  · intro number place process incarnation index frame linked delivered_found
    obtain ⟨socket, link⟩ := sane.linked linked
    have posted_found := getElem?_eq_some_of_begins
      (sane.delivered_begins headers_lawful lawful link).1 delivered_found
    rw [List.getElem?_map, Option.map_eq_some_iff] at posted_found
    obtain ⟨request, request_found, rfl⟩ := posted_found
    obtain ⟨call, invocation, outgoing, payload, -, -, sent_found, frame_eq, endpoint_eq, -⟩ :=
      sane.request link.found request_found
    exact ⟨request.call, invocation, outgoing,
      ⟨place, socket, request, linked, link.found, request_found, rfl, delivered_found⟩,
      sent_found, frame_eq, link.address_eq.trans endpoint_eq⟩
  · rintro number id process incarnation index
      ⟨place, socket, request, linked, found, request_found, rfl, -⟩
    constructor
    · rintro other twin position
        ⟨spot, known, again, other_linked, known_found, again_found, same, -⟩
      obtain ⟨rfl, rfl⟩ :=
        (sane.wired number).once found known_found request_found again_found same.symm
      obtain ⟨rfl, rfl⟩ : process = other ∧ incarnation = twin := by
        simpa [linked] using other_linked
      exact ⟨rfl, rfl, rfl⟩
    · rintro other call ⟨spot, known, again, other_linked, known_found, again_found, rfl, -⟩
      obtain ⟨rfl, rfl⟩ := sane.apart linked other_linked
      obtain rfl : socket = known := Option.some.inj (found.symm.trans known_found)
      obtain rfl : request = again := Option.some.inj (request_found.symm.trans again_found)
      exact ⟨rfl, rfl⟩
  · intro number id response returned
    obtain ⟨invocation, outgoing, responseFrame, pool, after, -, finished, received⟩ :=
      received_of_run headers_lawful lawful (sane.runs number) returned
    obtain ⟨frame, rpcResponse, rfl, -⟩ := RpcClient.invokeAsyncReceive_ok received
    obtain ⟨process, incarnation, index, payload, executed, -⟩ :=
      sane.answered headers_lawful lawful finished
    exact ⟨process, incarnation, index, executed⟩

theorem joinCall_executed_once : ∃ network, joinCluster.Reachable (fun _ => []) network ∧
    ∃ process incarnation index, Executed network 0 0 process incarnation index ∧
      ∀ other twin place, Executed network 0 0 other twin place →
        process = other ∧ incarnation = twin ∧ index = place := by
  obtain ⟨network, reachable, returned, -⟩ := exists_joinNetwork
  obtain ⟨-, once, succeeded⟩ := executed_at_most_once Proto3.headers_lawful
    Proto3.messages_lawful reachable
  obtain ⟨process, incarnation, index, executed⟩ := succeeded 0 0 _ returned
  exact ⟨network, reachable, process, incarnation, index, executed,
    (once 0 0 process incarnation index executed).1⟩

end Calls

end Cluster

end Hxrpc
