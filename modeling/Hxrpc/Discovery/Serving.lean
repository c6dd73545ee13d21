import Hxrpc.Discovery.Listing
import Hxrpc.Registry

/-!
# Servers are listed for what they serve

`RegisterEndpoints` registers the listen endpoint of a server for every method in its registry, the
same registry in which the dispatcher looks up the method of a request.  So the servers that a
resolver at rest lists for a method are servers that dispatch it.
-/

namespace Hxrpc

open ZooKeeper ZkClient ZkResolver ZkRegistrar

namespace ServiceRegistry

variable {Message : Type} {messages : MessageRuntime Message}

/-- `ListMethods`. -/
def listMethods (registry : ServiceRegistry messages) : List (RegisteredMethod messages) :=
  registry.entries.map (·.2)

/-- `ListMethods` lists the pairs of names that `Find` finds. -/
theorem exists_listMethods_iff {services : List (Service messages)}
    (plain : ∀ service ∈ services, service.Plain) {serviceName methodName : Bytes} :
    (∃ registered ∈ (registerAll services).listMethods, registered.serviceName = serviceName ∧
      registered.methodName = methodName) ↔
      ∃ registered, (registerAll services).find serviceName methodName = .ok registered := by
  simp only [listMethods, List.mem_map]
  constructor
  · rintro ⟨registered, ⟨⟨stored, _⟩, member, rfl⟩, rfl, rfl⟩
    have found := AList.mem_lookup_iff.mpr member
    rw [key_of_lookup found, Option.mem_def] at found
    exact ⟨_, by rw [find, found]⟩
  · rintro ⟨registered, found⟩
    simp only [find] at found
    split at found
    · rename_i stored lookup
      obtain rfl := Except.ok.inj found
      have bound := lookup
      rw [lookup_registerAll plain] at bound
      obtain ⟨service, last, same⟩ := Option.map_eq_some_iff.mp bound
      have offers : service.Offers serviceName methodName := by simpa using List.find?_some last
      refine ⟨stored, ⟨⟨_, stored⟩, AList.mem_lookup_iff.mp lookup, rfl⟩, ?_, ?_⟩
      · rw [← same]
        exact offers.1
      · rw [← same]
        rfl
    · split at found
      · cases found
      · cases found

end ServiceRegistry

/-- A server process as discovery sees it. -/
structure ServerProcess {Message : Type} (messages : MessageRuntime Message) where
  /-- The session of its registrar. -/
  session : Nat
  /-- `listen_endpoint`. -/
  listenEndpoint : Endpoint
  /-- The services that were registered, one after another. -/
  services : List (Service messages)

namespace ServerProcess

variable {Message : Type} {messages : MessageRuntime Message}

/-- `registry_`. -/
def registry (process : ServerProcess messages) : ServiceRegistry messages :=
  ServiceRegistry.registerAll process.services

/-- The `Register` calls of `RegisterEndpoints`.  The loop makes one after the other, up to the
first that fails; what is proved here is proved for every order and overlap of them. -/
def registrations (process : ServerProcess messages) : List Registration :=
  process.registry.listMethods.map fun method =>
    ⟨process.session, method.serviceName, method.methodName, process.listenEndpoint⟩

/-- The dispatcher finds the method. -/
def Serves (process : ServerProcess messages) (serviceName methodName : Bytes) : Prop :=
  ∃ registered, process.registry.find serviceName methodName = .ok registered

/-- A process registers what it serves. -/
theorem serves_iff {process : ServerProcess messages}
    (plain : ∀ service ∈ process.services, service.Plain) {serviceName methodName : Bytes} :
    process.Serves serviceName methodName ↔ ∃ registration ∈ process.registrations,
      registration.serviceName = serviceName ∧ registration.methodName = methodName := by
  rw [Serves, registry, ← ServiceRegistry.exists_listMethods_iff plain]
  simp only [registrations, List.mem_map, exists_exists_and_eq_and]
  rfl

theorem mem_registrations {process : ServerProcess messages} {registration : Registration}
    (member : registration ∈ process.registrations) :
    registration.session = process.session ∧ registration.endpoint = process.listenEndpoint := by
  obtain ⟨method, -, rfl⟩ := List.mem_map.mp member
  exact ⟨rfl, rfl⟩

section Processes

variable {Process Client : Type} (processes : Process → ServerProcess messages)

/-- The `Register` calls of all processes. -/
abbrev Call : Type := Σ process, Fin (processes process).registrations.length

/-- What a call registers. -/
def registrationOf (call : Call processes) : Registration :=
  (processes call.1).registrations.get call.2

variable {processes}

theorem registrationOf_mem (call : Call processes) :
    registrationOf processes call ∈ (processes call.1).registrations :=
  List.get_mem _ _

theorem exists_registrationOf {process : Process} {registration : Registration}
    (member : registration ∈ (processes process).registrations) :
    ∃ call : Call processes, call.1 = process ∧ registrationOf processes call = registration := by
  obtain ⟨index, found⟩ := List.mem_iff_get.mp member
  exact ⟨⟨process, index⟩, rfl, found⟩

variable [DecidableEq Process] [DecidableEq Client]
  {state : Directory.State (Call processes) Client}

/-- In every run of any number of processes and resolvers, for a resolver at rest whose session
lives, whose requests succeed and whose entries are stored in order, when the nodes of ended
sessions are gone: every endpoint that it lists for a method is the listen endpoint of a living
process whose dispatcher finds the method.  And a living process all of whose `Register` calls
returned success is listed for every method that it serves, unless a process of another session
listens on the same endpoint. -/
theorem listed_processes_serve
    (plain : ∀ process, ∀ service ∈ (processes process).services, service.Plain)
    (publishable : ∀ process, ∀ registration ∈ (processes process).registrations,
      registration.Publishable)
    (terminated : ∀ process, ∀ registration ∈ (processes process).registrations,
      registration.Terminated) {client : Client}
    (run : Directory.Run (fun other resolver move => other = client →
      Refreshing.Orderly resolver move) (registrationOf processes) state)
    (idle : (state.resolvers client).Idle) (quiet : (state.resolvers client).pending = [])
    (settled : Directory.Settled state) {serviceName methodName : Bytes}
    (resolved : (state.resolvers client).resolved (buildMethodPath serviceName methodName) =
      true) :
    ∃ entry, (state.resolvers client).cache (buildMethodPath serviceName methodName) =
        some entry ∧
      (∀ endpoint ∈ entry.map (·.endpoint), ∃ process,
        (processes process).listenEndpoint = endpoint ∧
        (processes process).session ∉ state.ended ∧
        (processes process).Serves serviceName methodName) ∧
      ∀ process, (∀ call : Call processes, call.1 = process →
          (state.registrars call).returned = some (.ok ())) →
        (processes process).session ∉ state.ended →
        (∀ other, (processes other).listenEndpoint = (processes process).listenEndpoint →
          (processes other).session = (processes process).session) →
        (processes process).Serves serviceName methodName →
        (processes process).listenEndpoint ∈ entry.map (·.endpoint) := by
  have publishable_call : ∀ call : Call processes, (registrationOf processes call).Publishable :=
    fun call => publishable _ _ (registrationOf_mem call)
  have terminated_call : ∀ call : Call processes, (registrationOf processes call).Terminated :=
    fun call => terminated _ _ (registrationOf_mem call)
  have holds := Directory.holds_of_run
    (fun call => (publishable_call call).nameable (terminated_call call)) run
  obtain ⟨entry, cached, -, listed⟩ :=
    Directory.entry_at_rest publishable_call terminated_call run idle quiet settled resolved
  refine ⟨entry, cached, ?_, ?_⟩
  · intro endpoint member
    obtain ⟨call, -, services, methods, same, alive⟩ := (listed endpoint).mp member
    obtain ⟨session, listens⟩ := mem_registrations (registrationOf_mem call)
    refine ⟨call.1, listens.symm.trans same, session ▸ alive, ?_⟩
    exact (serves_iff (plain call.1)).mpr ⟨_, registrationOf_mem call, services, methods⟩
  · intro process finished alive sole serves
    obtain ⟨registration, member, services, methods⟩ := (serves_iff (plain process)).mp serves
    obtain ⟨call, rfl, rfl⟩ := exists_registrationOf member
    obtain ⟨creator, created, same⟩ := Directory.made_of_returned holds (finished call rfl)
    obtain ⟨same_service, same_method, same_endpoint⟩ :=
      Directory.same_of_instancePath publishable_call terminated_call same
    obtain ⟨session, listens⟩ := mem_registrations (registrationOf_mem creator)
    obtain ⟨-, own_listens⟩ := mem_registrations member
    have endpoints : (registrationOf processes creator).endpoint =
        (processes call.1).listenEndpoint := same_endpoint.trans own_listens
    refine (listed _).mpr ⟨creator, created, same_service.trans services,
      same_method.trans methods, endpoints, ?_⟩
    rw [session, sole creator.1 (listens.symm.trans endpoints)]
    exact alive

end Processes

/-- A server with one method. -/
def loginProcess (_ : Unit) : ServerProcess Proto3.messages :=
  ⟨1, ⟨text "h", 80⟩, [ServiceRegistry.silentService (text "User") [text "Login"]]⟩

/-- The only call of this server. -/
def loginCall : Call loginProcess := ⟨(), ⟨0, Nat.one_pos⟩⟩

/-- It registers its method, and a client that resolves it lists the server. -/
theorem listed_loginProcess_serves :
    ∃ (state : Directory.State (Call loginProcess) Unit) (entry : List ServiceInstance),
      Directory.Run (fun other resolver move => other = () → Refreshing.Orderly resolver move)
        (registrationOf loginProcess) state ∧
      (state.resolvers ()).cache (buildMethodPath (text "User") (text "Login")) = some entry ∧
      ⟨text "h", 80⟩ ∈ entry.map (·.endpoint) ∧
      ∀ endpoint ∈ entry.map (·.endpoint), ∃ process,
        (loginProcess process).listenEndpoint = endpoint ∧
        (loginProcess process).session ∉ state.ended ∧
        (loginProcess process).Serves (text "User") (text "Login") := by
  have plain : ∀ process, ∀ service ∈ (loginProcess process).services, service.Plain := by
    intro process service member
    obtain rfl := List.mem_singleton.mp member
    exact ⟨by decide, by decide⟩
  have login : ∀ process, (loginProcess process).registrations =
    [⟨1, text "User", text "Login", ⟨text "h", 80⟩⟩] := fun _ => rfl
  have publishable : ∀ process, ∀ registration ∈ (loginProcess process).registrations,
      registration.Publishable := by
    intro process registration member
    rw [login, List.mem_singleton] at member
    exact member ▸ publishable_loginServers false
  have terminated : ∀ process, ∀ registration ∈ (loginProcess process).registrations,
      registration.Terminated := by
    intro process registration member
    rw [login, List.mem_singleton] at member
    exact member ▸ terminated_loginServers false
  have same : registrationOf loginProcess = fun _ => loginServers false := by
    funext call
    have member := registrationOf_mem call
    rw [login, List.mem_singleton] at member
    exact member
  have begun : Directory.Run (fun other resolver move => other = () →
      Refreshing.Orderly resolver move) (fun _ => loginServers false)
    (Directory.start fun _ => loginServers false : Directory.State (Call loginProcess) Unit) :=
    .initial
  have service := (begun.go (.request loginCall) trivial rfl).go (.request loginCall) trivial rfl
  have again := service.go (.request loginCall) trivial rfl
  have method := (again.go (.request loginCall) trivial rfl).go (.request loginCall) trivial rfl
  have missing := method.go (.request loginCall) trivial rfl
  have registered := missing.go (.request loginCall) trivial rfl
  have called := registered.go (.resolver () (.resolve (text "User") (text "Login")))
    (fun _ => ⟨id, Refreshing.named_resolveLogin, trivial⟩) rfl
  have children := called.go (.resolver () (.readChildren 0 [text "h:80"]))
    (fun _ => ⟨id, trivial, trivial⟩) rfl
  have read := children.go (.resolver () (.readData 0)) (fun _ => ⟨id, trivial, trivial⟩) rfl
  have stored := read.go (.resolver () (.store 0))
    (fun _ => ⟨id, trivial, fun _ _ _ _ _ before => by cases before⟩) rfl
  obtain ⟨state, run, idle, quiet, resolved, ended, returned⟩ :
      ∃ state : Directory.State (Call loginProcess) Unit,
        Directory.Run (fun other resolver move => other = () →
          Refreshing.Orderly resolver move) (fun _ => loginServers false) state ∧
        (state.resolvers ()).Idle ∧ (state.resolvers ()).pending = [] ∧
        (state.resolvers ()).resolved (buildMethodPath (text "User") (text "Login")) = true ∧
        state.ended = [] ∧ (state.registrars loginCall).returned = some (.ok ()) := by
    refine ⟨_, stored, ?_, rfl, rfl, rfl, rfl⟩
    intro own
    rcases own with _ | own
    · rfl
    · rfl
  rw [← same] at run
  have settled : Directory.Settled state := by
    intro path node session found owner past
    rw [ended] at past
    cases past
  obtain ⟨entry, cached, serving, listed⟩ :=
    listed_processes_serve plain publishable terminated run idle quiet settled resolved
  have finished : ∀ other : Call loginProcess, other.1 = () →
      (state.registrars other).returned = some (.ok ()) := by
    rintro ⟨⟨⟩, ⟨index, small⟩⟩ -
    obtain rfl : index = 0 := Nat.lt_one_iff.mp small
    exact returned
  refine ⟨state, entry, run, cached, ?_, serving⟩
  exact listed () finished (by simp [ended]) (fun _ _ => rfl)
    ((serves_iff (plain ())).mpr ⟨_, List.mem_singleton_self _, rfl, rfl⟩)

end ServerProcess

end Hxrpc
