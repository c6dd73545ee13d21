import Hxrpc.Discovery.Directory

/-!
# What resolvers hand out

`Resolve` answers with an instance of a cached entry or of the refresh that it waits for.  Whatever
fails and however the requests interleave, such an instance is the endpoint of a server that created
its node for exactly this method.  When a resolver is at rest, its entry for a method lists the
endpoints whose creators live, all of them and no others.
-/

namespace Hxrpc

open ZooKeeper ZkClient ZkResolver ZkRegistrar RpcStatusCode

namespace ZkResolver

/-- `ChooseInstance`. -/
def chooseInstance (instances : List ServiceInstance) (draw : Draw) :
    Except RpcError ServiceInstance :=
  if nonempty : instances ≠ [] then .ok (chooseItem instances nonempty .kRandom draw)
  else .error ⟨kDiscoveryError, text "no zookeeper instance available"⟩

theorem mem_of_chooseInstance {instances : List ServiceInstance} {draw : Draw}
    {chosen : ServiceInstance} (answer : chooseInstance instances draw = .ok chosen) :
    chosen ∈ instances := by
  simp only [chooseInstance] at answer
  split at answer
  · obtain rfl := Except.ok.inj answer
    exact List.get_mem _ _
  · cases answer

namespace Refreshing

/-- What `Resolve` returns at a step, with the path it resolves: from the cache, or at the end of
the refresh that it waits for.  The result of a refresh of the watcher is the same, and unused. -/
def answer (state : State) (draw : Draw) : Action → Option (Bytes × Except RpcError ServiceInstance)
  | .resolve serviceName methodName =>
      let path := buildMethodPath serviceName methodName
      (state.cache path).map fun entry => (path, chooseInstance entry draw)
  | .failChildren id =>
      match state.refreshes id with
      | some ⟨path, .started⟩ => some (path, .error (zkError "zoo_wget_children failed"))
      | _ => none
  | .store id =>
      match state.refreshes id with
      | some ⟨path, .reading _ [] instances⟩ => some (path, chooseInstance instances draw)
      | _ => none
  | _ => none

/-- Paths of methods have at least two separators. -/
theorem IsMethodPath.two_le_count {path : Bytes} (method : IsMethodPath path) :
    2 ≤ path.count slash := by
  obtain ⟨serviceName, methodName, rfl, -⟩ := method
  rw [buildMethodPath_eq]
  simp only [List.count_append, List.count_cons_self]
  omega

theorem proper_of_run {tree : Tree} {state : State}
    (run : Run (fun _ action => Named action) tree state) : Proper state := by
  apply run.invariant Proper (proper_initial tree)
  intro state next action proper named moved
  exact proper_step proper named (stepped_of_step moved)

theorem coherent_of_run {tree : Tree} {state : State} (terminated : ∀ key ∈ tree, 0 ∉ key)
    (run : Run Orderly tree state) : Coherent state := by
  apply run.invariant Coherent (coherent_initial terminated)
  intro state next action coherent orderly moved
  exact coherent_step coherent orderly (stepped_of_step moved)

/-- At rest the entry of a resolved path holds the instances that are there. -/
theorem Coherent.entry_at_rest {state : State} (coherent : Coherent state) (idle : state.Idle)
    (quiet : state.pending = []) {path : Bytes} (resolved : state.resolved path = true) :
    IsMethodPath path ∧ ∃ entry current, state.cache path = some entry ∧
      readInstances state.tree path (childNames state.tree path) = some current ∧
      entry.Perm current := by
  have no_unread : ¬ state.Unread path := by
    rintro ⟨id, found⟩
    cases (idle id).symm.trans found
  have read := (coherent.resolved resolved).resolve_right no_unread
  obtain ⟨last, last_read⟩ := Option.ne_none_iff_exists'.mp read
  refine ⟨coherent.method last_read, ?_⟩
  rcases coherent.current last_read with pending | unread | ⟨-, fresh⟩
  · rw [quiet] at pending
    cases pending
  · exact absurd unread no_unread
  · rcases fresh with ⟨id, _, _, _, found, -⟩ | ⟨-, entry, children, cached, perm, entry_read⟩
    · cases (idle id).symm.trans found
    · obtain ⟨current, current_read, same⟩ := readInstances_perm perm entry_read
      exact ⟨entry, current, cached, current_read, same⟩

end Refreshing

end ZkResolver

namespace Directory

open Refreshing (IsMethodPath)

variable {Id Client : Type} [DecidableEq Id] [DecidableEq Client]
  {registrations : Id → Registration} {state next : State Id Client} {action : Action Id Client}
  {allowed : Client → Refreshing.State → Refreshing.Action → Prop}

/-! ## One resolver -/

omit [DecidableEq Id] [DecidableEq Client] in
/-- A node that belongs to a session is that of an instance, and there is nothing below it. -/
theorem Holds.removable (holds : Holds registrations state)
    (nameable : ∀ id, (registrations id).Nameable) {path : Bytes} {node : Node} {session : Nat}
    (found : state.tree.lookup path = some node) (owner : node.owner = some session) :
    path ∈ state.tree ∧ path ≠ root ∧ childNames state.tree path = [] := by
  have present : path ∈ state.tree := AList.lookup_isSome.mp (Option.isSome_of_mem found)
  cases holds.placed path node found with
  | ofRoot same => cases owner
  | ofDirectory id same => cases owner
  | ofInstance id member same =>
      have count := (nameable id).count_instancePath
      rw [← same] at count
      have not_nil : path ≠ [] := by
        rintro rfl
        cases count
      have not_root : path ≠ root := by
        rintro rfl
        cases count
      refine ⟨present, not_root, List.eq_nil_iff_forall_not_mem.mpr ?_⟩
      intro child listed
      obtain ⟨below, absent⟩ := (mem_childNames not_nil not_root).mp listed
      obtain ⟨other, other_found⟩ := Option.isSome_iff_exists.mp (AList.lookup_isSome.mpr below)
      have shallow := (holds.placed _ other other_found).count_le nameable
      rw [List.count_append, List.count_cons_self, count] at shallow
      omega

/-- What a resolver sees of a run is a run of its refreshes. -/
theorem refreshes_of_run (nameable : ∀ id, (registrations id).Nameable)
    (run : Run allowed registrations state) (client : Client)
    {own : Refreshing.State → Refreshing.Action → Prop}
    (changes : ∀ resolver change, IsChange change = true → own resolver change)
    (permitted : ∀ resolver move, allowed client resolver move → own resolver move) :
    Refreshing.Run own newTree (state.resolvers client) := by
  refine run.seen (fun state => state.resolvers client) ?_
  intro state next action before guarded moved
  have holds := holds_of_run nameable before
  have synced := holds.synced client
  cases stepped_of_step moved with
  | ask id behind same todo => exact Or.inl rfl
  | write id call behind same todo member alive parent missing =>
      -- The resolver sees how the node of the call is created.
      let owner := (call.node (state.session id)).owner
      refine Or.inr ⟨.create call.path call.data owner, changes _ _ rfl, ?_⟩
      have node_eq : call.node (state.session id) = ⟨some call.data, owner⟩ := by
        rw [← createdData_of_mem (nameable id) ((holds.left id).subset member)]
        rfl
      have created : zooCreate (state.resolvers client).tree call.path ⟨some call.data, owner⟩ =
          .ok (state.tree.insert (cStr call.path) (call.node (state.session id))) := by
        rw [synced, node_eq]
        exact zooCreate_eq_ok_iff.mpr ⟨parent, missing, rfl⟩
      simp only [Refreshing.step, created]
      rfl
  | endSession session => exact Or.inl rfl
  | remove path node session found owner past =>
      refine Or.inr ⟨.delete path, changes _ _ rfl, ?_⟩
      obtain ⟨present, not_root, childless⟩ := holds.removable nameable found owner
      simp only [Refreshing.step, synced]
      rw [if_neg (by simp [present, not_root, childless])]
      rfl
  | resolver other move behind resolved unchanging =>
      by_cases eq : client = other
      · subst eq
        refine Or.inr ⟨move, permitted _ _ guarded, ?_⟩
        simpa using resolved
      · exact Or.inl (by simp [eq])

/-! ## What is read below a path -/

omit [DecidableEq Id] in
/-- The parts of the path of an instance. -/
theorem parts_of_instancePath {id : Id} (nameable : (registrations id).Nameable)
    {path child : Bytes} (method : IsMethodPath path)
    (same : path ++ slash :: child = (registrations id).instancePath) :
    path = (registrations id).methodPath ∧ child = (registrations id).endpoint.toString := by
  have count := congrArg (List.count slash) same
  have two := method.two_le_count
  rw [List.count_append, List.count_cons_self, nameable.count_instancePath] at count
  have absent : slash ∉ child := List.count_eq_zero.mp (by omega)
  rw [Registration.instancePath_eq] at same
  exact Decimal.append_cons_inj_of_notMem absent nameable.instance_name.1 same

/-- The endpoints of a list were registered for a path. -/
def Listed (registrations : Id → Registration) (created : List Id) (path : Bytes)
    (instances : List ServiceInstance) : Prop :=
  ∀ known ∈ instances, ∃ id ∈ created, (registrations id).methodPath = path ∧
    known = ⟨(registrations id).endpoint.toString, (registrations id).endpoint⟩

omit [DecidableEq Id] in
theorem Listed.mono {created later : List Id} {path : Bytes} {instances : List ServiceInstance}
    (listed : Listed registrations created path instances) (kept : ∀ id ∈ created, id ∈ later) :
    Listed registrations later path instances := by
  intro known member
  obtain ⟨id, before, same⟩ := listed known member
  exact ⟨id, kept id before, same⟩

omit [DecidableEq Id] in
/-- The node of an instance is read as its endpoint. -/
theorem readInstance_of_instanceNode {tree : Tree} {id : Id}
    (publishable : (registrations id).Publishable) (terminated : (registrations id).Terminated)
    (found : tree.lookup (registrations id).instancePath =
      some (instanceNode (registrations id))) :
    readInstance tree (registrations id).methodPath (registrations id).endpoint.toString =
      some (some ⟨(registrations id).endpoint.toString, (registrations id).endpoint⟩) := by
  have path_eq : (registrations id).methodPath ++ text "/" ++
      (registrations id).endpoint.toString = (registrations id).instancePath := rfl
  have whole : (registrations id).endpoint.toString.take 512 =
      (registrations id).endpoint.toString := List.take_of_length_le publishable.short
  have data : getData tree (registrations id).instancePath =
      some (.ok (registrations id).endpoint.toString) := by
    rw [getData, zooGet_eq_ok (publishable.nameable terminated).cStr_instancePath found]
    simp [instanceNode, whole]
  rw [readInstance, path_eq, data]
  simp [parseEndpoint_toString publishable.colon publishable.host.1 publishable.port]

variable (publishable : ∀ id, (registrations id).Publishable)
  (terminated : ∀ id, (registrations id).Terminated)

include publishable terminated

omit [DecidableEq Id] [DecidableEq Client] in
/-- Below the path of a method there are only the nodes of instances. -/
theorem Holds.below (holds : Holds registrations state) {path child : Bytes}
    (method : IsMethodPath path) {node : Node}
    (found : state.tree.lookup (path ++ slash :: child) = some node) :
    ∃ id ∈ state.created, path = (registrations id).methodPath ∧
      child = (registrations id).endpoint.toString ∧
      path ++ slash :: child = (registrations id).instancePath ∧
      node = instanceNode (registrations id) := by
  have nameable := fun id => (publishable id).nameable (terminated id)
  have deep : 2 < (path ++ slash :: child).count slash := by
    have two := method.two_le_count
    rw [List.count_append, List.count_cons_self]
    omega
  obtain ⟨id, member, same, node_eq⟩ := (holds.placed _ node found).of_count nameable deep
  obtain ⟨path_eq, child_eq⟩ := parts_of_instancePath (nameable id) method same
  exact ⟨id, member, path_eq, child_eq, same, node_eq⟩

omit [DecidableEq Id] [DecidableEq Client] in
/-- What is read as an instance was registered for the path. -/
theorem Holds.listed_of_readInstance (holds : Holds registrations state) {path child : Bytes}
    (method : IsMethodPath path) (absent : 0 ∉ child) {found : Option ServiceInstance}
    (read : readInstance state.tree path child = some found) :
    Listed registrations state.created path found.toList := by
  intro known member
  obtain rfl := Option.mem_toList.mp member
  have key_eq : path ++ text "/" ++ child = path ++ slash :: child := by simp [text, slash]
  have key_terminated : cStr (path ++ slash :: child) = path ++ slash :: child := by
    obtain ⟨serviceName, methodName, -, path_terminated⟩ := method
    apply cStr_eq_self
    simpa [slash] using ⟨path_terminated, absent⟩
  cases lookup : state.tree.lookup (path ++ slash :: child) with
  | none =>
      have missing : getData state.tree (path ++ slash :: child) =
          some (.error (zkError "zoo_get failed")) := by
        simp only [getData, zooGet]
        rw [key_terminated, lookup]
      rw [readInstance, key_eq, missing] at read
      cases read
  | some node =>
      obtain ⟨id, created, path_eq, child_eq, same, rfl⟩ :=
        holds.below publishable terminated method lookup
      rw [same] at lookup
      have own := readInstance_of_instanceNode (publishable id) (terminated id) lookup
      rw [path_eq, child_eq, own] at read
      exact ⟨id, created, path_eq.symm, (Option.some.inj (Option.some.inj read)).symm⟩

/-! ## What a resolver knows -/

/-- Whatever is cached or collected was registered for its path; the children that are still to be
read are C strings. -/
structure Known (registrations : Id → Registration) (created : List Id)
    (resolver : Refreshing.State) : Prop where
  cached : ∀ path entry, resolver.cache path = some entry →
    Listed registrations created path entry
  collected : ∀ own path number children instances,
    resolver.refreshes own = some ⟨path, .reading number children instances⟩ →
      (∀ child ∈ children, 0 ∉ child) ∧ Listed registrations created path instances

omit publishable terminated

omit [DecidableEq Id] in
theorem Known.mono {created later : List Id} {resolver : Refreshing.State}
    (known : Known registrations created resolver) (kept : ∀ id ∈ created, id ∈ later) :
    Known registrations later resolver where
  cached := fun path entry cached => (known.cached path entry cached).mono kept
  collected := by
    intro own path number children instances found
    obtain ⟨absent, listed⟩ := known.collected own path number children instances found
    exact ⟨absent, listed.mono kept⟩

omit [DecidableEq Id] in
/-- One refresh makes a step that stores nothing. -/
theorem Known.update {created : List Id} {resolver behind : Refreshing.State}
    (known : Known registrations created resolver) {own : Nat} {value : Option Refreshing.Refresh}
    (refreshes : behind.refreshes = Function.update resolver.refreshes own value)
    (cache : behind.cache = resolver.cache)
    (listed : ∀ path number children instances,
      value = some ⟨path, .reading number children instances⟩ →
        (∀ child ∈ children, 0 ∉ child) ∧ Listed registrations created path instances) :
    Known registrations created behind where
  cached := cache ▸ known.cached
  collected := by
    intro other path number children instances found
    by_cases same : other = own
    · exact listed path number children instances (by simpa [refreshes, same] using found)
    · exact known.collected other path number children instances
        (by simpa [refreshes, same] using found)

omit [DecidableEq Id] [DecidableEq Client] in
/-- The paths in the tree are C strings. -/
theorem Holds.zero_notMem (holds : Holds registrations state)
    (nameable : ∀ id, (registrations id).Nameable) : ∀ key ∈ state.tree, 0 ∉ key := by
  intro key member
  obtain ⟨node, found⟩ := Option.isSome_iff_exists.mp (AList.lookup_isSome.mpr member)
  cases holds.placed key node found with
  | ofRoot same =>
      rw [same]
      decide
  | ofDirectory id same =>
      rcases same with rfl | rfl
      · exact (nameable id).cStr_servicePath ▸ notMem_cStr _
      · exact (nameable id).cStr_methodPath ▸ notMem_cStr _
  | ofInstance id created same => exact same ▸ (nameable id).cStr_instancePath ▸ notMem_cStr _

include publishable terminated

omit [DecidableEq Id] [DecidableEq Client] in
/-- A step of a resolver keeps what it knows true: only reading the data of a node adds to it. -/
theorem Known.step (holds : Holds registrations state) {client : Client}
    (known : Known registrations state.created (state.resolvers client))
    (proper : Refreshing.Proper (state.resolvers client)) {move : Refreshing.Action}
    {behind : Refreshing.State} (unchanging : IsChange move = false)
    (stepped : Refreshing.Stepped (state.resolvers client) move behind) :
    Known registrations state.created behind := by
  have nameable := fun id => (publishable id).nameable (terminated id)
  have synced := holds.synced client
  cases stepped with
  | create path data owner absent => cases unchanging
  | delete path present => cases unchanging
  | hit serviceName methodName cached => exact ⟨known.cached, known.collected⟩
  | miss serviceName methodName => exact known.update rfl rfl (by simp)
  | ignore path member unsplit => exact ⟨known.cached, known.collected⟩
  | deliver path serviceName methodName member split => exact known.update rfl rfl (by simp)
  | readChildren own path children current alive present perm =>
      refine known.update rfl rfl ?_
      intro other number rest instances same
      obtain ⟨rfl, -, rfl, rfl⟩ : path = other ∧ _ ∧ children = rest ∧ [] = instances := by
        simpa using same
      refine ⟨?_, fun _ member => by cases member⟩
      have method : IsMethodPath path := proper.refreshed current
      intro child member
      rw [method.cStr_eq, synced] at perm
      have below := ((mem_childNames method.ne_nil method.ne_root).mp (perm.mem_iff.mp member)).1
      intro zero
      exact holds.zero_notMem nameable _ below
        (List.mem_append_right _ (List.mem_cons_of_mem _ zero))
  | failChildren own path current => exact known.update rfl rfl (by simp)
  | readData own path number child children instances found current alive read =>
      refine known.update rfl rfl ?_
      intro other index rest collected same
      obtain ⟨rfl, -, rfl, rfl⟩ : path = other ∧ _ ∧ children = rest ∧
          instances ++ found.toList = collected := by simpa using same
      obtain ⟨absent, listed⟩ := known.collected own path number _ instances current
      refine ⟨fun child member => absent child (List.mem_cons_of_mem _ member), ?_⟩
      rw [synced] at read
      have new := holds.listed_of_readInstance publishable terminated (proper.refreshed current)
        (absent child List.mem_cons_self) read
      intro known_instance member
      exact (List.mem_append.mp member).elim (listed known_instance) (new known_instance)
  | failData own path number child children instances current =>
      refine known.update rfl rfl ?_
      intro other index rest collected same
      obtain ⟨rfl, -, rfl, rfl⟩ : path = other ∧ _ ∧ children = rest ∧ instances = collected := by
        simpa using same
      obtain ⟨absent, listed⟩ := known.collected own path number _ instances current
      exact ⟨fun child member => absent child (List.mem_cons_of_mem _ member), listed⟩
  | throwData own path number child children instances current alive thrown =>
      exact known.update rfl rfl (by simp)
  | endSession kept some_of => exact ⟨known.cached, known.collected⟩
  | store own path number instances current =>
      have listed := (known.collected own path number _ instances current).2
      constructor
      · intro other entry cached
        by_cases same : other = path
        · subst same
          obtain rfl : instances = entry := by
            simpa [Refreshing.State.save, Refreshing.State.finish] using cached
          exact listed
        · exact known.cached other entry
            (by simpa [Refreshing.State.save, Refreshing.State.finish, same] using cached)
      · intro other at_path index children collected found
        by_cases same : other = own
        · simp [Refreshing.State.save, Refreshing.State.finish, same] at found
        · exact known.collected other at_path index children collected
            (by simpa [Refreshing.State.save, Refreshing.State.finish, same] using found)

theorem proper_of_run (run : Run (fun _ _ move => Refreshing.Named move) registrations state)
    (client : Client) : Refreshing.Proper (state.resolvers client) := by
  have nameable := fun id => (publishable id).nameable (terminated id)
  refine Refreshing.proper_of_run (refreshes_of_run nameable run client ?_ fun _ _ named => named)
  intro resolver change is_change
  cases change with
  | create path data owner => trivial
  | delete path => trivial
  | _ => cases is_change

/-- In every run each resolver only knows what was registered. -/
theorem known_of_run (run : Run (fun _ _ move => Refreshing.Named move) registrations state) :
    ∀ client, Known registrations state.created (state.resolvers client) := by
  have nameable := fun id => (publishable id).nameable (terminated id)
  induction run with
  | initial =>
      intro client
      constructor
      · intro path entry cached
        cases cached
      · intro own path number children instances found
        cases found
  | @step state next action before guarded moved ih =>
      have holds := holds_of_run nameable before
      cases stepped_of_step moved with
      | ask id behind same todo => exact ih
      | write id call behind same todo member alive parent missing =>
          intro client
          have known := (ih client).mono fun _ => mem_created_write id call
          exact ⟨known.cached, known.collected⟩
      | endSession session => exact ih
      | remove path node session found owner past =>
          exact fun client => ⟨(ih client).cached, (ih client).collected⟩
      | resolver client move behind resolved unchanging =>
          intro other
          by_cases same : other = client
          · subst same
            have stepped := Refreshing.stepped_of_step resolved
            simpa using (ih other).step publishable terminated holds
              (proper_of_run publishable terminated before other) unchanging stepped
          · simpa [same] using ih other

omit publishable terminated

/-! ## What `Resolve` returns -/

omit [DecidableEq Id] in
/-- A path of a registration is the path of one pair of names only. -/
theorem names_of_methodPath {id : Id} (nameable : (registrations id).Nameable)
    {serviceName methodName : Bytes}
    (same : (registrations id).methodPath = buildMethodPath serviceName methodName) :
    (registrations id).serviceName = serviceName ∧ (registrations id).methodName = methodName := by
  have count := nameable.count_methodPath
  rw [same, buildMethodPath_eq, List.count_append, List.count_cons_self,
    List.count_cons_self] at count
  have absent : slash ∉ methodName := List.count_eq_zero.mp (by omega)
  rw [Registration.methodPath_eq, buildMethodPath_eq] at same
  obtain ⟨services, methods⟩ :=
    Decimal.append_cons_inj_of_notMem nameable.method.1 absent same
  exact ⟨(List.cons.inj services).2, methods⟩

omit [DecidableEq Id] in
/-- The chosen instance comes from the cache or from the refresh that is stored. -/
theorem Known.answer {created : List Id} {resolver : Refreshing.State}
    (known : Known registrations created resolver) {draw : Draw} {move : Refreshing.Action}
    {path : Bytes} {chosen : ServiceInstance}
    (answered : Refreshing.answer resolver draw move = some (path, .ok chosen)) :
    ∃ id ∈ created, (registrations id).methodPath = path ∧
      chosen = ⟨(registrations id).endpoint.toString, (registrations id).endpoint⟩ := by
  cases move with
  | resolve serviceName methodName =>
      obtain ⟨entry, cached, same⟩ := Option.map_eq_some_iff.mp answered
      obtain ⟨rfl, chosen_eq⟩ := Prod.mk.inj same
      exact known.cached _ entry cached chosen (mem_of_chooseInstance chosen_eq)
  | failChildren own =>
      simp only [Refreshing.answer] at answered
      split at answered
      · cases answered
      · cases answered
  | store own =>
      simp only [Refreshing.answer] at answered
      split at answered
      · rename_i at_path number instances found
        obtain ⟨rfl, chosen_eq⟩ := Prod.mk.inj (Option.some.inj answered)
        exact (known.collected own _ number [] instances found).2 chosen
          (mem_of_chooseInstance chosen_eq)
      · cases answered
  | _ => cases answered

/-- In every run, whatever requests fail, throw or are lost and whichever sessions end, an instance
that `Resolve` returns is the endpoint that a `Register` call for exactly this service and method
has put into the tree. -/
theorem resolved_was_registered (publishable : ∀ id, (registrations id).Publishable)
    (terminated : ∀ id, (registrations id).Terminated)
    (run : Run (fun _ _ move => Refreshing.Named move) registrations state) {client : Client}
    {draw : Draw} {move : Refreshing.Action} {serviceName methodName : Bytes}
    {chosen : ServiceInstance}
    (answered : Refreshing.answer (state.resolvers client) draw move =
      some (buildMethodPath serviceName methodName, .ok chosen)) :
    ∃ id ∈ state.created, (registrations id).serviceName = serviceName ∧
      (registrations id).methodName = methodName ∧
      chosen = ⟨(registrations id).endpoint.toString, (registrations id).endpoint⟩ := by
  obtain ⟨id, created, path_eq, chosen_eq⟩ :=
    (known_of_run publishable terminated run client).answer answered
  obtain ⟨services, methods⟩ :=
    names_of_methodPath ((publishable id).nameable (terminated id)) path_eq
  exact ⟨id, created, services, methods, chosen_eq⟩

/-- A server registers, and a client resolves its method. -/
theorem login_was_registered :
    ∃ (state : State Bool Unit) (chosen : ServiceInstance),
      Run (fun _ _ move => Refreshing.Named move) loginServers state ∧
      Refreshing.answer (state.resolvers ()) (fun _ => 0) (.store 0) =
        some (buildMethodPath (text "User") (text "Login"), .ok chosen) ∧
      ∃ id ∈ state.created, (loginServers id).serviceName = text "User" ∧
        (loginServers id).methodName = text "Login" ∧
        chosen = ⟨(loginServers id).endpoint.toString, (loginServers id).endpoint⟩ := by
  have begun : Run (fun _ _ move => Refreshing.Named move) loginServers
    (start loginServers : State Bool Unit) := .initial
  have service := (begun.go (.request false) trivial rfl).go (.request false) trivial rfl
  have again := service.go (.request false) trivial rfl
  have method := (again.go (.request false) trivial rfl).go (.request false) trivial rfl
  have registered := (method.go (.request false) trivial rfl).go (.request false) trivial rfl
  have called := registered.go (.resolver () (.resolve (text "User") (text "Login")))
    Refreshing.named_resolveLogin rfl
  have listed := called.go (.resolver () (.readChildren 0 [text "h:80"])) trivial rfl
  have read := listed.go (.resolver () (.readData 0)) trivial rfl
  obtain ⟨state, run, answered⟩ : ∃ state : State Bool Unit,
      Run (fun _ _ move => Refreshing.Named move) loginServers state ∧
      Refreshing.answer (state.resolvers ()) (fun _ => 0) (.store 0) =
        some (buildMethodPath (text "User") (text "Login"),
          .ok ⟨text "h:80", ⟨text "h", 80⟩⟩) := ⟨_, read, by decide +kernel⟩
  exact ⟨state, _, run, answered,
    resolved_was_registered publishable_loginServers terminated_loginServers run answered⟩

/-! ## Resolvers at rest -/

/-- The node of an endpoint is there. -/
def Stands (registrations : Id → Registration) (state : State Id Client) (path : Bytes)
    (endpoint : Endpoint) : Prop :=
  ∃ id ∈ state.created, (registrations id).methodPath = path ∧
    (registrations id).endpoint = endpoint ∧
    state.tree.lookup (registrations id).instancePath = some (instanceNode (registrations id))

/-- The nodes of sessions that ended are gone. -/
def Settled (state : State Id Client) : Prop :=
  ∀ path node session, state.tree.lookup path = some node → node.owner = some session →
    session ∉ state.ended

omit [DecidableEq Id] [DecidableEq Client] in
/-- A `Register` call that returned success created its node, or another call had created it. -/
theorem made_of_returned (holds : Holds registrations state) {id : Id}
    (returned : (state.registrars id).returned = some (.ok ())) :
    Made registrations state.created id := by
  rcases holds.made id with pending | made
  · simp only [Registrar.returned] at returned
    split at returned
    · cases returned
    · rename_i todo
      rw [todo] at pending
      cases pending
    · cases returned
  · exact made

section Rest

variable (publishable : ∀ id, (registrations id).Publishable)
  (terminated : ∀ id, (registrations id).Terminated)

include publishable terminated

omit [DecidableEq Id] [DecidableEq Client] in
/-- What is read below a path are the endpoints whose nodes are there, by their names. -/
theorem Holds.readInstances (holds : Holds registrations state) {path : Bytes}
    (method : IsMethodPath path) :
    ∃ instances, readInstances state.tree path (childNames state.tree path) = some instances ∧
      instances.map (·.id) = childNames state.tree path ∧
      ∀ known ∈ instances, Stands registrations state path known.endpoint ∧
        known.endpoint.toString = known.id := by
  refine readInstances_of_forall fun child member => ?_
  have below := ((mem_childNames method.ne_nil method.ne_root).mp member).1
  obtain ⟨node, found⟩ := Option.isSome_iff_exists.mp (AList.lookup_isSome.mpr below)
  obtain ⟨id, created, path_eq, child_eq, same, rfl⟩ :=
    holds.below publishable terminated method found
  rw [same] at found
  refine ⟨(registrations id).endpoint, ⟨id, created, path_eq.symm, rfl, found⟩, child_eq.symm, ?_⟩
  rw [path_eq, child_eq]
  exact readInstance_of_instanceNode (publishable id) (terminated id) found

omit [DecidableEq Id] [DecidableEq Client] in
/-- An endpoint is read below a path when it was registered there in a session that lives. -/
theorem Holds.mem_endpoints (holds : Holds registrations state) (settled : Settled state)
    {path : Bytes} (method : IsMethodPath path) {instances : List ServiceInstance}
    (read : ZkResolver.readInstances state.tree path (childNames state.tree path) =
      some instances) {endpoint : Endpoint} :
    endpoint ∈ instances.map (·.endpoint) ↔ ∃ id ∈ state.created,
      (registrations id).methodPath = path ∧ (registrations id).endpoint = endpoint ∧
      (registrations id).session ∉ state.ended := by
  obtain ⟨others, others_read, ids, all⟩ := holds.readInstances publishable terminated method
  obtain rfl := Option.some.inj (others_read.symm.trans read)
  rw [List.mem_map]
  constructor
  · rintro ⟨known, member, rfl⟩
    obtain ⟨⟨id, created, path_eq, same, found⟩, -⟩ := all known member
    exact ⟨id, created, path_eq, same, settled _ _ _ found rfl⟩
  · rintro ⟨id, created, rfl, rfl, alive⟩
    have found := holds.kept id created alive
    have below : (registrations id).endpoint.toString ∈
        childNames state.tree (registrations id).methodPath := by
      rw [mem_childNames method.ne_nil method.ne_root, ← Registration.instancePath_eq]
      exact ⟨AList.lookup_isSome.mp (Option.isSome_of_mem found),
        ((publishable id).nameable (terminated id)).instance_name.1⟩
    rw [← ids, List.mem_map] at below
    obtain ⟨known, member, id_eq⟩ := below
    refine ⟨known, member, ?_⟩
    obtain ⟨⟨other, -, -, other_eq, -⟩, text_eq⟩ := all known member
    have texts : (registrations other).endpoint.toString =
        (registrations id).endpoint.toString := by rw [other_eq, text_eq, id_eq]
    rw [← other_eq]
    exact (publishable other).endpoint_inj (publishable id) texts

omit [DecidableEq Id] [DecidableEq Client] in
/-- No endpoint is read twice. -/
theorem Holds.nodup_endpoints (holds : Holds registrations state) {path : Bytes}
    (method : IsMethodPath path) {instances : List ServiceInstance}
    (read : ZkResolver.readInstances state.tree path (childNames state.tree path) =
      some instances) : (instances.map (·.endpoint)).Nodup := by
  obtain ⟨others, others_read, ids, all⟩ := holds.readInstances publishable terminated method
  obtain rfl := Option.some.inj (others_read.symm.trans read)
  have texts : (others.map (·.endpoint)).map Endpoint.toString =
      childNames state.tree path := by
    rw [← ids, List.map_map]
    exact List.map_congr_left fun known member => (all known member).2
  have nodup : (childNames state.tree path).Nodup :=
    nodup_childNames method.ne_nil method.ne_root
  rw [← texts] at nodup
  exact nodup.of_map

end Rest

/-- At rest the entry of a resolved method lists the endpoints that were registered for it in
sessions that live. -/
theorem entry_at_rest (publishable : ∀ id, (registrations id).Publishable)
    (terminated : ∀ id, (registrations id).Terminated) {client : Client}
    (run : Run (fun other resolver move => other = client → Refreshing.Orderly resolver move)
      registrations state) (idle : (state.resolvers client).Idle)
    (quiet : (state.resolvers client).pending = []) (settled : Settled state)
    {serviceName methodName : Bytes}
    (resolved : (state.resolvers client).resolved (buildMethodPath serviceName methodName) =
      true) :
    ∃ entry, (state.resolvers client).cache (buildMethodPath serviceName methodName) =
        some entry ∧ (entry.map (·.endpoint)).Nodup ∧
      ∀ endpoint, endpoint ∈ entry.map (·.endpoint) ↔ ∃ id ∈ state.created,
        (registrations id).serviceName = serviceName ∧
        (registrations id).methodName = methodName ∧ (registrations id).endpoint = endpoint ∧
        (registrations id).session ∉ state.ended := by
  have nameable := fun id => (publishable id).nameable (terminated id)
  have holds := holds_of_run nameable run
  have coherent : Refreshing.Coherent (state.resolvers client) := by
    refine Refreshing.coherent_of_run ?_
      (refreshes_of_run nameable run client ?_ fun _ _ orderly => orderly rfl)
    · intro key member
      rw [mem_newTree_iff.mp member]
      decide
    · intro resolver change is_change
      cases change with
      | create path data owner => exact ⟨fun fails => fails, trivial, trivial⟩
      | delete path => exact ⟨fun fails => fails, trivial, trivial⟩
      | _ => cases is_change
  obtain ⟨method, entry, current, cached, read, perm⟩ :=
    coherent.entry_at_rest idle quiet resolved
  rw [holds.synced client] at read
  have endpoints := perm.map fun known : ServiceInstance => known.endpoint
  refine ⟨entry, cached,
    endpoints.nodup_iff.mpr (holds.nodup_endpoints publishable terminated method read), ?_⟩
  intro endpoint
  rw [endpoints.mem_iff, holds.mem_endpoints publishable terminated settled method read]
  constructor
  · rintro ⟨id, created, path_eq, rest⟩
    obtain ⟨services, methods⟩ := names_of_methodPath (nameable id) path_eq
    exact ⟨id, created, services, methods, rest⟩
  · rintro ⟨id, created, rfl, rfl, rest⟩
    exact ⟨id, created, rfl, rest⟩

omit [DecidableEq Id] in
/-- Registrations of one node are for the same method and endpoint. -/
theorem same_of_instancePath {id other : Id} (publishable : ∀ id, (registrations id).Publishable)
    (terminated : ∀ id, (registrations id).Terminated)
    (same : (registrations other).instancePath = (registrations id).instancePath) :
    (registrations other).serviceName = (registrations id).serviceName ∧
      (registrations other).methodName = (registrations id).methodName ∧
      (registrations other).endpoint = (registrations id).endpoint := by
  have nameable := fun id => (publishable id).nameable (terminated id)
  rw [Registration.instancePath_eq, Registration.instancePath_eq] at same
  obtain ⟨paths, texts⟩ := Decimal.append_cons_inj_of_notMem (nameable other).instance_name.1
    (nameable id).instance_name.1 same
  obtain ⟨services, methods⟩ := methodPath_inj (nameable other) (nameable id) paths
  exact ⟨services, methods, (publishable other).endpoint_inj (publishable id) texts⟩

/-- In every run in which the session of a resolver lives, its requests succeed and its entries are
stored in order, at rest and when the nodes of ended sessions are gone, its entry for a resolved
method lists exactly the endpoints that were registered for the method in sessions that live, each
of them once.  A `Register` call that returned success is among them as long as the session lives
that created its node. -/
theorem rest_lists_the_living (publishable : ∀ id, (registrations id).Publishable)
    (terminated : ∀ id, (registrations id).Terminated) {client : Client}
    (run : Run (fun other resolver move => other = client → Refreshing.Orderly resolver move)
      registrations state) (idle : (state.resolvers client).Idle)
    (quiet : (state.resolvers client).pending = []) (settled : Settled state)
    {serviceName methodName : Bytes}
    (resolved : (state.resolvers client).resolved (buildMethodPath serviceName methodName) =
      true) :
    ∃ entry, (state.resolvers client).cache (buildMethodPath serviceName methodName) =
        some entry ∧ (entry.map (·.endpoint)).Nodup ∧
      (∀ endpoint, endpoint ∈ entry.map (·.endpoint) ↔ ∃ id ∈ state.created,
        (registrations id).serviceName = serviceName ∧
        (registrations id).methodName = methodName ∧ (registrations id).endpoint = endpoint ∧
        (registrations id).session ∉ state.ended) ∧
      ∀ id, (registrations id).serviceName = serviceName →
        (registrations id).methodName = methodName →
        (state.registrars id).returned = some (.ok ()) →
        ∃ creator ∈ state.created,
          (registrations creator).instancePath = (registrations id).instancePath ∧
          ((registrations creator).session ∉ state.ended →
            (registrations id).endpoint ∈ entry.map (·.endpoint)) := by
  have holds := holds_of_run (fun id => (publishable id).nameable (terminated id)) run
  obtain ⟨entry, cached, nodup, listed⟩ :=
    entry_at_rest publishable terminated run idle quiet settled resolved
  refine ⟨entry, cached, nodup, listed, ?_⟩
  rintro id rfl rfl returned
  obtain ⟨creator, created, same⟩ := made_of_returned holds returned
  obtain ⟨services, methods, endpoints⟩ := same_of_instancePath publishable terminated same
  refine ⟨creator, created, same, ?_⟩
  intro alive
  exact (listed _).mpr ⟨creator, created, services, methods, endpoints, alive⟩

/-- A client has resolved the method of a server when a second server registers for it; the first
one ends, and the watcher refreshes the entry. -/
theorem rest_lists_the_second_login :
    ∃ (state : State Bool Unit) (entry : List ServiceInstance),
      Run (fun other resolver move => other = () → Refreshing.Orderly resolver move) loginServers
        state ∧ state.ended = [1] ∧
      (state.resolvers ()).cache (buildMethodPath (text "User") (text "Login")) = some entry ∧
      ⟨text "h", 81⟩ ∈ entry.map (·.endpoint) ∧ ⟨text "h", 80⟩ ∉ entry.map (·.endpoint) := by
  have begun : Run (fun other resolver move => other = () → Refreshing.Orderly resolver move)
    loginServers (start loginServers : State Bool Unit) := .initial
  have service := (begun.go (.request false) trivial rfl).go (.request false) trivial rfl
  have again := service.go (.request false) trivial rfl
  have method := (again.go (.request false) trivial rfl).go (.request false) trivial rfl
  have first := (method.go (.request false) trivial rfl).go (.request false) trivial rfl
  have called := first.go (.resolver () (.resolve (text "User") (text "Login")))
    (fun _ => ⟨id, Refreshing.named_resolveLogin, trivial⟩) rfl
  have listed := called.go (.resolver () (.readChildren 0 [text "h:80"]))
    (fun _ => ⟨id, trivial, trivial⟩) rfl
  have read := listed.go (.resolver () (.readData 0)) (fun _ => ⟨id, trivial, trivial⟩) rfl
  have stored := read.go (.resolver () (.store 0))
    (fun _ => ⟨id, trivial, fun _ _ _ _ _ before => by cases before⟩) rfl
  have found := (stored.go (.request true) trivial rfl).go (.request true) trivial rfl
  have missing := (found.go (.request true) trivial rfl).go (.request true) trivial rfl
  have second := missing.go (.request true) trivial rfl
  have past := second.go (.endSession 1) trivial rfl
  have removed := past.go (.remove (text "/User/Login/h:80")) trivial rfl
  have delivered := removed.go (.resolver () (.deliver (text "/User/Login")))
    (fun _ => ⟨id, trivial, trivial⟩) rfl
  have relisted := delivered.go (.resolver () (.readChildren 1 [text "h:81"]))
    (fun _ => ⟨id, trivial, trivial⟩) rfl
  have reread := relisted.go (.resolver () (.readData 1)) (fun _ => ⟨id, trivial, trivial⟩) rfl
  have restored := reread.go (.resolver () (.store 1)) (by
    refine fun _ => ⟨id, trivial, ?_⟩
    intro path number instances newest found before
    cases found
    cases before
    decide) rfl
  obtain ⟨state, run, idle, quiet, resolved, ended, created, standing⟩ : ∃ state : State Bool Unit,
      Run (fun other resolver move => other = () → Refreshing.Orderly resolver move) loginServers
        state ∧ (state.resolvers ()).Idle ∧ (state.resolvers ()).pending = [] ∧
      (state.resolvers ()).resolved (buildMethodPath (text "User") (text "Login")) = true ∧
      state.ended = [1] ∧ state.created = [true, false] ∧
      (state.tree.entries.all fun entry => entry.2.owner ≠ some 1) = true := by
    refine ⟨_, restored, ?_, rfl, rfl, rfl, rfl, by decide +kernel⟩
    intro own
    rcases own with _ | _ | own
    · rfl
    · rfl
    · rfl
  have settled : Settled state := by
    intro path node session found owner past
    rw [ended, List.mem_singleton] at past
    have kept := List.all_eq_true.mp standing _ (AList.mem_lookup_iff.mp found)
    simp [owner, past] at kept
  obtain ⟨entry, cached, -, listed, -⟩ := rest_lists_the_living publishable_loginServers
    terminated_loginServers run idle quiet settled resolved
  refine ⟨state, entry, run, ended, cached, (listed _).mpr ⟨true, ?_, rfl, rfl, rfl, ?_⟩, ?_⟩
  · simp [created]
  · rw [ended]
    decide
  · intro member
    obtain ⟨own, -, -, -, same, alive⟩ := (listed _).mp member
    cases own with
    | false => exact alive (by simp [ended, loginServers])
    | true => exact absurd same (by decide)

end Directory

end Hxrpc
