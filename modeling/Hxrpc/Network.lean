import Hxrpc.Client.Correlation
import Hxrpc.Client.Wire
import Hxrpc.EndToEnd
import Hxrpc.Server.History

/-!
# Clients and servers on a network

Any number of clients with any number of calls each, and any number of server processes.  A step is
a step of one client, a step of one server's event loop, the pairing of a client's connection with a
socket that a server accepted, or the arrival of bytes at a client.  Bytes arrive in order and are
those that the other side's kernel took; everything else about the interleaving, the cutting, the
delays and the failures is open, and so are the sockets of a server that belong to nobody here.
-/

namespace Hxrpc

open BigEndian StreamCut RpcServer TcpClientTransport

/-- The fixed parts: what all clients and servers share, and for each server process the endpoint
that it listens on and its services. -/
structure Cluster (Message : Type) where
  /-- Headers and messages. -/
  client : RpcClient Message
  /-- Where a server process listens. -/
  address : Nat → Endpoint
  /-- The services of a server process. -/
  registry : Nat → ServiceRegistry client.messages

/-- Clients, servers and the connections between them.  `wires` and `links` are auxiliary. -/
structure Network (Message : Type) where
  /-- The clients. -/
  clients : Nat → RpcClient.Session Message := fun _ => {}
  /-- What the kernel took from a client on each of its connections. -/
  wires : Nat → Nat → Bytes := fun _ _ => []
  /-- The server processes. -/
  servers : Nat → Loop (MessagePool Message)
  /-- The server process and its accepted socket at the other end of a client's connection. -/
  links : Nat → Nat → Option (Nat × Nat) := fun _ _ => none

/-- The length field of the frame holds its length. -/
def Short (frame : Bytes) : Prop :=
  frame.length - kLengthPrefixSize < 2 ^ 32

instance (frame : Bytes) : Decidable (Short frame) :=
  inferInstanceAs (Decidable (_ < _))

/-- An encoded frame whose length field holds its length is cut as a whole or refused. -/
theorem decided_of_encodeFrame {header payload frame : Bytes}
    (encoded : encodeFrame header payload = .ok frame) (short : Short frame) :
    frameCutter.cut frame = .item frame [] ∨ frameCutter.cut frame = .reject := by
  by_cases fits : frame.length - kLengthPrefixSize ≤ maxFrameBody
  · have isFrame := (isFrame_of_encodeFrame_iff encoded).mpr fits
    exact Or.inl (by simpa using cutFrame_of_isFrame isFrame [])
  · have length := length_of_encodeFrame encoded
    have declared := decode32_of_encodeFrame encoded
    simp only [Short] at short
    rw [Nat.mod_eq_of_lt short] at declared
    simp only [kLengthPrefixSize] at length
    refine Or.inr (cutFrame_reject_iff.mpr ⟨by omega, fun admissible => fits ?_⟩)
    rw [← declared]
    exact admissible.2

namespace Cluster

variable {Message : Type} (cluster : Cluster Message) (strerror : Nat → Bytes)

/-- The dispatcher of a server process. -/
def dispatcher (process : Nat) : RpcDispatcher Message where
  headers := cluster.client.headers
  messages := cluster.client.messages
  registry := cluster.registry process

/-- A new call sends and gets only frames whose length fields hold their lengths. -/
def Bounded (session : RpcClient.Session Message) : RpcClient.Event Message → Prop
  | .invoke invocation resolved => ∀ outgoing nextRequestId,
      cluster.client.invokeAsyncSend session.nextRequestId invocation resolved =
        (.ok outgoing, nextRequestId) →
      Short outgoing.frame ∧ ∀ process, cluster.address process = outgoing.endpoint →
        Short (reply (cluster.dispatcher process) outgoing.frame)
  | .move _ _ => True
  | .peerWrite _ _ => False
  | .resume _ => True

/-- What a step of a client hands to its kernel. -/
def takenBy (session : RpcClient.Session Message) :
    RpcClient.Event Message → Option (Nat × Bytes)
  | .move id outcome => taken session.transport (.move id outcome)
  | _ => none

/-- One step of the network. -/
inductive Step : Network Message → Network Message → Prop where
  | client (network : Network Message) (number : Nat) (event : RpcClient.Event Message)
      {session : RpcClient.Session Message}
      (bounded : cluster.Bounded (network.clients number) event)
      (moved : cluster.client.step strerror (network.clients number) event = some session) :
      Step network { network with
        clients := Function.update network.clients number session
        wires := Function.update network.wires number
          (carry (network.wires number) (takenBy (network.clients number) event)) }
  | server (network : Network Message) (process : Nat) {loop : Loop (MessagePool Message)}
      (moved : Reactor.Step (onFrame (cluster.dispatcher process)) (fun _ _ => True)
        (network.servers process) loop)
      (arrived : ∀ number socket incarnation,
        network.links number socket = some (process, incarnation) →
        (loop.server.journal incarnation).received <+: network.wires number socket) :
      Step network { network with servers := Function.update network.servers process loop }
  | link (network : Network Message) (number place process incarnation : Nat) {socket : Socket}
      (found : (network.clients number).transport.sockets place = some socket)
      (address_eq : cluster.address process = socket.endpoint)
      (accepted : incarnation < (network.servers process).server.accepted)
      (untouched : (network.servers process).server.journal incarnation = [])
      (unlinked : network.links number place = none)
      (free : ∀ other socket, network.links other socket ≠ some (process, incarnation)) :
      Step network { network with
        links := Function.update network.links number
          (Function.update (network.links number) place (some (process, incarnation))) }
  | arrive (network : Network Message) (number : Nat) (fd : Fd) (bytes : Bytes)
      {place process incarnation : Nat} {socket : Socket} {session : RpcClient.Session Message}
      (at_fd : (network.clients number).transport.socketAt fd = some (place, socket))
      (linked : network.links number place = some (process, incarnation))
      (sent : socket.written ++ bytes <+:
        ((network.servers process).server.journal incarnation).accepted)
      (moved : cluster.client.step strerror (network.clients number) (.peerWrite fd bytes) =
        some session) :
      Step network { network with clients := Function.update network.clients number session }

/-- The states of all runs in which every server process begins with a successful `Listen`. -/
inductive Reachable : Network Message → Prop where
  | initial (servers : Nat → Loop (MessagePool Message))
      (listening : ∀ process, ∃ outcome server,
        ConnectionManager.listen { app := {} } outcome = (true, server) ∧
          servers process = { server := server }) :
      Reachable { servers := servers }
  | step {before after : Network Message} (reachable : Reachable before)
      (moved : Step cluster strerror before after) : Reachable after

/-! ## The invariant -/

/-- Every call of a client has a record of what it was given, which its request frame encodes. -/
def Kept (session : RpcClient.Session Message) : Prop :=
  ∀ id call, session.transport.calls id = some call → ∃ invocation outgoing payload,
    session.sent id = some (invocation, outgoing) ∧ call.frame = outgoing.frame ∧
    call.endpoint = outgoing.endpoint ∧
    ProtobufSerializer.serialize cluster.client.messages invocation.request = .ok payload ∧
    RpcCodec.encodeRequest cluster.client.headers
      (RpcDispatcher.rpcRequest invocation outgoing.requestId payload) = .ok outgoing.frame ∧
    Short outgoing.frame ∧ ∀ process, cluster.address process = outgoing.endpoint →
      Short (reply (cluster.dispatcher process) outgoing.frame)

/-- What a server received on a linked socket is a part of what the client's kernel took, and what
the client received is a part of what the server's kernel took. -/
structure Linked (network : Network Message) (number place process incarnation : Nat)
    (socket : Socket) : Prop where
  found : (network.clients number).transport.sockets place = some socket
  address_eq : cluster.address process = socket.endpoint
  received : ((network.servers process).server.journal incarnation).received <+:
    network.wires number place
  written : socket.written <+: ((network.servers process).server.journal incarnation).accepted

/-- The invariant of the network. -/
structure Sane (network : Network Message) : Prop where
  runs : ∀ number, RpcClient.Run cluster.client strerror (RpcClient.PeersWrite fun _ => True)
    (network.clients number)
  kept : ∀ number, cluster.Kept (network.clients number)
  wired : ∀ number, Wired (network.clients number).transport (network.wires number)
  serving : ∀ process, Reactor.Reachable (onFrame (cluster.dispatcher process)) {}
    (network.servers process)
  linked : ∀ {number place process incarnation},
    network.links number place = some (process, incarnation) →
    ∃ socket, cluster.Linked network number place process incarnation socket
  unlinked : ∀ {number place socket}, network.links number place = none →
    (network.clients number).transport.sockets place = some socket → socket.written = []
  apart : ∀ {number place other spot process incarnation},
    network.links number place = some (process, incarnation) →
    network.links other spot = some (process, incarnation) → number = other ∧ place = spot

section Steps

variable {cluster : Cluster Message} {strerror : Nat → Bytes}
  {session next : RpcClient.Session Message} {before after : Network Message}

theorem paired_of_session
    (run : RpcClient.Run cluster.client strerror (RpcClient.PeersWrite fun _ => True) session) :
    Paired (fun _ => True) session.transport :=
  paired_of_run stable_true (RpcClient.transport_of_run run)

/-- The calls keep their frames and endpoints. -/
theorem Kept.of_move (kept : cluster.Kept session) {id : Nat} {outcome : Outcome}
    {transport : State}
    (moved : TcpClientTransport.step strerror session.transport (.move id outcome) =
      some transport) :
    cluster.Kept { session with transport := transport } := by
  simp only [TcpClientTransport.step, Option.bind_eq_bind, Option.bind_eq_some_iff] at moved
  obtain ⟨call, found, moved⟩ := moved
  obtain ⟨⟨-, phase, calls_eq⟩, -⟩ := goesOn_move moved
  intro other known known_found
  simp only [calls_eq] at known_found
  by_cases same : other = id
  · subst same
    rw [Function.update_self] at known_found
    obtain rfl := Option.some.inj known_found
    exact kept other call found
  · rw [Function.update_of_ne same] at known_found
    exact kept other known known_found

/-- A new call is recorded. -/
theorem Kept.of_sent (kept : cluster.Kept session) {invocation : Invocation Message}
    {resolved : Except RpcError ServiceInstance} {outgoing : Outgoing} {nextRequestId : UInt64}
    {transport : State} (bounded : cluster.Bounded session (.invoke invocation resolved))
    (encoded : cluster.client.invokeAsyncSend session.nextRequestId invocation resolved =
      (.ok outgoing, nextRequestId))
    (started : TcpClientTransport.step strerror session.transport
      (.start outgoing.endpoint outgoing.frame) = some transport) :
    cluster.Kept { session with
      transport := transport
      nextRequestId := nextRequestId
      sent := Function.update session.sent session.transport.started
        (some (invocation, outgoing)) } := by
  obtain rfl := Option.some.inj started
  obtain ⟨short, short_replies⟩ := bounded outgoing nextRequestId encoded
  obtain ⟨payload, serialized, request_encoded⟩ := RpcClient.invokeAsyncSend_ok encoded
  intro id call found
  by_cases same : id = session.transport.started
  · subst same
    simp only [Function.update_self, Option.some.injEq] at found
    subst found
    exact ⟨invocation, outgoing, payload, Function.update_self _ _ _, rfl, rfl, serialized,
      request_encoded, short, short_replies⟩
  · simp only [Function.update_of_ne same] at found ⊢
    exact kept id call found

/-- A step of a client keeps what is known of it, and no connection of it gets bytes. -/
theorem client_step
    (run : RpcClient.Run cluster.client strerror (RpcClient.PeersWrite fun _ => True) session)
    (kept : cluster.Kept session) {wires : Nat → Bytes} (wired : Wired session.transport wires)
    {event : RpcClient.Event Message} (bounded : cluster.Bounded session event)
    (moved : cluster.client.step strerror session event = some next) :
    RpcClient.Run cluster.client strerror (RpcClient.PeersWrite fun _ => True) next ∧
      cluster.Kept next ∧ Wired next.transport (carry wires (takenBy session event)) ∧
      Persists session.transport next.transport := by
  have paired := paired_of_session run
  have permitted : RpcClient.PeersWrite (fun _ => True) session event := by
    cases event <;> simp [RpcClient.PeersWrite, PeersKeep]
  refine ⟨run.step event permitted moved, ?_⟩
  cases RpcClient.stepped_of_step moved with
  | refused failed => exact ⟨kept, wired, persists_of_eq rfl⟩
  | sent encoded started =>
      refine ⟨kept.of_sent bounded encoded started, ?_, ?_⟩
      · exact wired.step paired started
      · obtain rfl := Option.some.inj started
        exact persists_of_eq rfl
  | move carried =>
      refine ⟨kept.of_move carried, wired.step paired carried, ?_⟩
      simp only [TcpClientTransport.step, Option.bind_eq_bind, Option.bind_eq_some_iff] at carried
      obtain ⟨call, -, carried⟩ := carried
      exact persists_move paired carried
  | peerWrite carried => exact bounded.elim
  | resume found under_way finished waiting received => exact ⟨kept, wired, persists_of_eq rfl⟩

theorem sane_initial {servers : Nat → Loop (MessagePool Message)}
    (listening : ∀ process, ∃ outcome server,
      ConnectionManager.listen { app := {} } outcome = (true, server) ∧
        servers process = { server := server }) :
    cluster.Sane strerror { servers := servers } where
  runs _ := .initial
  kept _ := by simp [Kept]
  wired _ := wired_initial
  serving process := by
    obtain ⟨outcome, server, listened, server_eq⟩ := listening process
    exact ⟨outcome, server, listened, server_eq ▸ Relation.ReflTransGen.refl⟩
  linked := by simp
  unlinked := by simp
  apart := by simp

/-- One client moves. -/
theorem Sane.client (sane : cluster.Sane strerror before) {number : Nat}
    {event : RpcClient.Event Message} (bounded : cluster.Bounded (before.clients number) event)
    (moved : cluster.client.step strerror (before.clients number) event = some next) :
    cluster.Sane strerror { before with
      clients := Function.update before.clients number next
      wires := Function.update before.wires number
        (carry (before.wires number) (takenBy (before.clients number) event)) } := by
  obtain ⟨run, kept, wired, persists⟩ :=
    client_step (sane.runs number) (sane.kept number) (sane.wired number) bounded moved
  have longer : ∀ place, before.wires number place <+:
      carry (before.wires number) (takenBy (before.clients number) event) place := by
    intro place
    cases takenBy (before.clients number) event with
    | none => exact List.prefix_refl _
    | some pair =>
        obtain ⟨sender, bytes⟩ := pair
        by_cases same : place = sender
        · subst same
          simp [carry]
        · simp [carry, Function.update_of_ne same]
  constructor
  · intro other
    by_cases same : other = number
    · subst same
      simpa using run
    · simpa [Function.update_of_ne same] using sane.runs other
  · intro other
    by_cases same : other = number
    · subst same
      simpa using kept
    · simpa [Function.update_of_ne same] using sane.kept other
  · intro other
    by_cases same : other = number
    · subst same
      simpa using wired
    · simpa [Function.update_of_ne same] using sane.wired other
  · exact sane.serving
  · intro other place process incarnation linked
    obtain ⟨socket, link⟩ := sane.linked linked
    by_cases same : other = number
    · subst same
      obtain ⟨later, later_found, endpoint_eq, written_eq⟩ := persists.kept link.found
      refine ⟨later, ?_, ?_, ?_, ?_⟩
      · simpa using later_found
      · rw [endpoint_eq, link.address_eq]
      · simpa using link.received.trans (longer place)
      · rw [written_eq]
        exact link.written
    · refine ⟨socket, ?_, link.address_eq, ?_, link.written⟩
      · simpa [Function.update_of_ne same] using link.found
      · simpa [Function.update_of_ne same] using link.received
  · intro other place socket unlinked found
    by_cases same : other = number
    · subst same
      simp only [Function.update_self] at found
      cases earlier : (before.clients other).transport.sockets place with
      | none => exact persists.new earlier found
      | some known =>
          obtain ⟨later, later_found, -, written_eq⟩ := persists.kept earlier
          obtain rfl : later = socket := Option.some.inj (later_found.symm.trans found)
          rw [written_eq]
          exact sane.unlinked unlinked earlier
    · simp only [Function.update_of_ne same] at found
      exact sane.unlinked unlinked found
  · exact sane.apart

/-- One server moves and reads only what arrived. -/
theorem Sane.server (sane : cluster.Sane strerror before) {process : Nat}
    {loop : Loop (MessagePool Message)}
    (moved : Reactor.Step (onFrame (cluster.dispatcher process)) (fun _ _ => True)
      (before.servers process) loop)
    (arrived : ∀ number socket incarnation,
      before.links number socket = some (process, incarnation) →
      (loop.server.journal incarnation).received <+: before.wires number socket) :
    cluster.Sane strerror
      { before with servers := Function.update before.servers process loop } where
  runs := sane.runs
  kept := sane.kept
  wired := sane.wired
  serving other := by
    by_cases same : other = process
    · subst same
      obtain ⟨outcome, server, listened, steps⟩ := sane.serving other
      simp only [Function.update_self]
      exact ⟨outcome, server, listened, steps.tail moved⟩
    · simp only [Function.update_of_ne same]
      exact sane.serving other
  linked := by
    intro number place other incarnation linked
    obtain ⟨socket, link⟩ := sane.linked linked
    by_cases same : other = process
    · subst same
      refine ⟨socket, link.found, link.address_eq, ?_, ?_⟩
      · simpa using arrived number place incarnation linked
      · obtain ⟨entries, journal_eq⟩ := grows_step moved incarnation
        simp only [Function.update_self, ← journal_eq, Journal.accepted_append]
        exact link.written.trans (List.prefix_append _ _)
    · refine ⟨socket, link.found, link.address_eq, ?_, ?_⟩
      · simpa [Function.update_of_ne same] using link.received
      · simpa [Function.update_of_ne same] using link.written
  unlinked := sane.unlinked
  apart := sane.apart

/-- A connection of a client meets a socket of a server on which nothing happened. -/
theorem Sane.link (sane : cluster.Sane strerror before) {number place process incarnation : Nat}
    {socket : Socket}
    (found : (before.clients number).transport.sockets place = some socket)
    (address_eq : cluster.address process = socket.endpoint)
    (untouched : (before.servers process).server.journal incarnation = [])
    (unlinked : before.links number place = none)
    (free : ∀ other socket, before.links other socket ≠ some (process, incarnation)) :
    cluster.Sane strerror { before with
      links := Function.update before.links number
        (Function.update (before.links number) place (some (process, incarnation))) } where
  runs := sane.runs
  kept := sane.kept
  wired := sane.wired
  serving := sane.serving
  linked := by
    intro other spot other_process other_incarnation linked
    by_cases same : other = number
    · subst same
      by_cases here : spot = place
      · subst here
        simp only [Function.update_self, Option.some.injEq, Prod.mk.injEq] at linked
        obtain ⟨rfl, rfl⟩ := linked
        exact ⟨socket, found, address_eq, by simp [untouched],
          by simp [sane.unlinked unlinked found]⟩
      · simp only [Function.update_self, Function.update_of_ne here] at linked
        obtain ⟨known, link⟩ := sane.linked linked
        exact ⟨known, link.found, link.address_eq, link.received, link.written⟩
    · simp only [Function.update_of_ne same] at linked
      obtain ⟨known, link⟩ := sane.linked linked
      exact ⟨known, link.found, link.address_eq, link.received, link.written⟩
  unlinked := by
    intro other spot known linked known_found
    by_cases same : other = number
    · subst same
      by_cases here : spot = place
      · simp [here] at linked
      · simp only [Function.update_self, Function.update_of_ne here] at linked
        exact sane.unlinked linked known_found
    · simp only [Function.update_of_ne same] at linked
      exact sane.unlinked linked known_found
  apart := by
    have position : ∀ {other spot pair},
        Function.update before.links number
          (Function.update (before.links number) place (some (process, incarnation))) other spot =
            some pair →
        other = number ∧ spot = place ∧ pair = (process, incarnation) ∨
          before.links other spot = some pair := by
      intro other spot pair linked
      by_cases same : other = number
      · subst same
        rw [Function.update_self] at linked
        by_cases here : spot = place
        · subst here
          rw [Function.update_self] at linked
          exact Or.inl ⟨rfl, rfl, (Option.some.inj linked).symm⟩
        · rw [Function.update_of_ne here] at linked
          exact Or.inr linked
      · rw [Function.update_of_ne same] at linked
        exact Or.inr linked
    intro left left_place right right_place other_process other_incarnation left_linked right_linked
    rcases position left_linked with ⟨rfl, rfl, pair_eq⟩ | left_before <;>
      rcases position right_linked with ⟨rfl, rfl, twin_eq⟩ | right_before
    · exact ⟨rfl, rfl⟩
    · exact absurd (pair_eq ▸ right_before) (free _ _)
    · exact absurd (twin_eq ▸ left_before) (free _ _)
    · exact sane.apart left_before right_before

/-- Bytes of a server arrive at a client. -/
theorem Sane.arrive (sane : cluster.Sane strerror before) {number : Nat} {fd : Fd} {bytes : Bytes}
    {place process incarnation : Nat} {socket : Socket}
    (at_fd : (before.clients number).transport.socketAt fd = some (place, socket))
    (linked : before.links number place = some (process, incarnation))
    (sent : socket.written ++ bytes <+:
      ((before.servers process).server.journal incarnation).accepted)
    (moved : cluster.client.step strerror (before.clients number) (.peerWrite fd bytes) =
      some next) :
    cluster.Sane strerror
      { before with clients := Function.update before.clients number next } := by
  have paired := paired_of_session (sane.runs number)
  obtain ⟨fd_found, found⟩ := socketAt_eq_some.mp at_fd
  have run : RpcClient.Run cluster.client strerror (RpcClient.PeersWrite fun _ => True) next :=
    (sane.runs number).step _ (by simp [RpcClient.PeersWrite, PeersKeep]) moved
  cases RpcClient.stepped_of_step moved with
  | @peerWrite _ _ transport carried =>
      have wired := (sane.wired number).step paired carried
      obtain rfl : (before.clients number).transport.setSocket place (socket.write bytes) =
          transport := by
        simpa [TcpClientTransport.step, at_fd] using carried
      have of_other : ∀ {spot}, spot ≠ place →
          ((before.clients number).transport.setSocket place (socket.write bytes)).sockets spot =
            (before.clients number).transport.sockets spot :=
        fun ne => Function.update_of_ne ne _ _
      have of_own : ((before.clients number).transport.setSocket place
          (socket.write bytes)).sockets place = some (socket.write bytes) :=
        Function.update_self place _ _
      constructor
      · intro other
        by_cases same : other = number
        · subst same
          simpa using run
        · simpa [Function.update_of_ne same] using sane.runs other
      · intro other
        by_cases same : other = number
        · subst same
          simp only [Function.update_self]
          exact sane.kept other
        · simpa [Function.update_of_ne same] using sane.kept other
      · intro other
        by_cases same : other = number
        · subst same
          simp only [Function.update_self]
          exact wired
        · simpa [Function.update_of_ne same] using sane.wired other
      · exact sane.serving
      · intro other spot other_process other_incarnation other_linked
        obtain ⟨known, link⟩ := sane.linked other_linked
        by_cases same : other = number
        · subst same
          by_cases here : spot = place
          · subst here
            obtain ⟨rfl, rfl⟩ : process = other_process ∧ incarnation = other_incarnation := by
              simpa [linked] using other_linked
            obtain rfl : socket = known := Option.some.inj (found.symm.trans link.found)
            refine ⟨socket.write bytes, ?_, link.address_eq, link.received, sent⟩
            simp only [Function.update_self]
            exact of_own
          · refine ⟨known, ?_, link.address_eq, link.received, link.written⟩
            simp only [Function.update_self]
            exact (of_other here).trans link.found
        · refine ⟨known, ?_, link.address_eq, link.received, link.written⟩
          simpa [Function.update_of_ne same] using link.found
      · intro other spot known other_unlinked known_found
        by_cases same : other = number
        · subst same
          simp only [Function.update_self] at known_found
          by_cases here : spot = place
          · subst here
            simp [linked] at other_unlinked
          · exact sane.unlinked other_unlinked ((of_other here).symm.trans known_found)
        · simp only [Function.update_of_ne same] at known_found
          exact sane.unlinked other_unlinked known_found
      · exact sane.apart

theorem sane_of_reachable {network : Network Message}
    (reachable : cluster.Reachable strerror network) : cluster.Sane strerror network := by
  induction reachable with
  | initial servers listening => exact sane_initial listening
  | step reachable moved sane =>
      cases moved with
      | client _ _ bounded moved => exact sane.client bounded moved
      | server _ moved arrived => exact sane.server moved arrived
      | link _ _ _ _ found address_eq accepted untouched unlinked free =>
          exact sane.link found address_eq untouched unlinked free
      | arrive _ _ _ at_fd linked sent moved => exact sane.arrive at_fd linked sent moved

end Steps

/-! ## What arrives -/

section Results

variable {cluster : Cluster Message} {strerror : Nat → Bytes} {network : Network Message}
  {number place process incarnation : Nat} {socket : Socket}

/-- The requests of a connection with what is known of them. -/
theorem Sane.request (sane : cluster.Sane strerror network)
    (found : (network.clients number).transport.sockets place = some socket) {index : Nat}
    {request : Posted} (request_found : socket.requests[index]? = some request) :
    ∃ call invocation outgoing payload,
      (network.clients number).transport.calls request.call = some call ∧
      call.frame = request.frame ∧
      (network.clients number).sent request.call = some (invocation, outgoing) ∧
      request.frame = outgoing.frame ∧ socket.endpoint = outgoing.endpoint ∧
      ProtobufSerializer.serialize cluster.client.messages invocation.request = .ok payload ∧
      RpcCodec.encodeRequest cluster.client.headers
        (RpcDispatcher.rpcRequest invocation outgoing.requestId payload) = .ok outgoing.frame ∧
      Short outgoing.frame ∧ ∀ process, cluster.address process = outgoing.endpoint →
        Short (reply (cluster.dispatcher process) outgoing.frame) := by
  obtain ⟨call, call_found, frame_eq, endpoint_eq, -⟩ :=
    (sane.wired number).callers found request_found
  obtain ⟨invocation, outgoing, payload, sent_found, same_frame, same_endpoint, rest⟩ :=
    sane.kept number _ call call_found
  exact ⟨call, invocation, outgoing, payload, call_found, frame_eq, sent_found,
    frame_eq.symm.trans same_frame, endpoint_eq.symm.trans same_endpoint, rest⟩

theorem Sane.consistent (sane : cluster.Sane strerror network)
    (headers_lawful : cluster.client.headers.Lawful) (lawful : cluster.client.messages.Lawful)
    (process : Nat) :
    Consistent (fun pool => pool.Typed cluster.client.messages) (reply (cluster.dispatcher process))
      (network.servers process).server :=
  (invariant_of_running headers_lawful lawful (sane.serving process)).server

/-- A server delivers the requests of a linked connection from the first on, each as one frame. -/
theorem Sane.delivered_begins (sane : cluster.Sane strerror network)
    (headers_lawful : cluster.client.headers.Lawful) (lawful : cluster.client.messages.Lawful)
    (link : cluster.Linked network number place process incarnation socket) :
    ((network.servers process).server.journal incarnation).delivered <+:
        socket.requests.map Posted.frame ∧
      ∀ frame ∈ ((network.servers process).server.journal incarnation).delivered,
        IsFrame frame := by
  have consistent := sane.consistent headers_lawful lawful process
  have delivered_eq := (consistent.sound incarnation).delivered
  rw [delivered_eq]
  refine ⟨?_, fun frame member => isFrame_of_mem_items member⟩
  have decided : ∀ frame ∈ socket.requests.map Posted.frame,
      frameCutter.cut frame = .item frame [] ∨ frameCutter.cut frame = .reject := by
    intro frame member
    obtain ⟨request, request_member, rfl⟩ := List.mem_map.mp member
    obtain ⟨index, request_found⟩ := List.getElem?_of_mem request_member
    obtain ⟨call, invocation, outgoing, payload, -, -, -, frame_eq, -, -, encoded, short, -⟩ :=
      sane.request link.found request_found
    obtain ⟨header, -, framed⟩ := RpcCodec.encodeRequest_eq_ok encoded
    rw [frame_eq]
    exact decided_of_encodeFrame framed short
  obtain ⟨tail, whole⟩ := (Journal.handed_begins _).trans
    (link.received.trans ((sane.wired number).between link.found).2)
  have first := frameCutter.items_prefix_append
    ((network.servers process).server.journal incarnation).handed tail
  rw [whole, posted, List.flatMap_def] at first
  exact first.trans (frameCutter.items_flatten_begins decided)

/-- A client gets the replies to the delivered requests from the first on, each as one frame. -/
theorem Sane.written_begins (sane : cluster.Sane strerror network)
    (headers_lawful : cluster.client.headers.Lawful) (lawful : cluster.client.messages.Lawful)
    (link : cluster.Linked network number place process incarnation socket) :
    (frameCutter.split socket.written).items <+:
      ((network.servers process).server.journal incarnation).delivered.map
        (reply (cluster.dispatcher process)) := by
  have consistent := sane.consistent headers_lawful lawful process
  obtain ⟨pending, balanced⟩ := (consistent.sound incarnation).balanced
  have decided : ∀ answer ∈ ((network.servers process).server.journal incarnation).delivered.map
      (reply (cluster.dispatcher process)),
      frameCutter.cut answer = .item answer [] ∨ frameCutter.cut answer = .reject := by
    intro answer member
    obtain ⟨frame, frame_member, rfl⟩ := List.mem_map.mp member
    have posted_member := (sane.delivered_begins headers_lawful lawful link).1.subset frame_member
    obtain ⟨request, request_member, rfl⟩ := List.mem_map.mp posted_member
    obtain ⟨index, request_found⟩ := List.getElem?_of_mem request_member
    obtain ⟨call, invocation, outgoing, payload, -, -, -, frame_eq, endpoint_eq, -, -, -, short⟩ :=
      sane.request link.found request_found
    obtain ⟨response, encoded⟩ : ∃ response, RpcCodec.encodeResponse
        (cluster.dispatcher process).headers response =
          .ok (reply (cluster.dispatcher process) request.frame) :=
      exists_encodeResponse_reply headers_lawful request.frame
    obtain ⟨header, -, framed⟩ := RpcCodec.encodeResponse_eq_ok encoded
    refine decided_of_encodeFrame framed ?_
    rw [frame_eq]
    exact short process (link.address_eq.trans endpoint_eq)
  obtain ⟨tail, whole⟩ := link.written.trans balanced.accepted_begins
  have first := frameCutter.items_prefix_append socket.written tail
  rw [whole, List.flatMap_def] at first
  exact first.trans (frameCutter.items_flatten_begins decided)

end Results

end Cluster

end Hxrpc
