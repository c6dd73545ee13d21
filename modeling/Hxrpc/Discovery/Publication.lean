import Hxrpc.Discovery.Registration
import Hxrpc.Discovery.Resolver

/-!
# What registrars publish is what resolvers read

Registrations one after another in an empty tree, and what `RefreshMethod` finds behind them.  The
tree holds the paths of the registrations and nothing else, and the children of the path of a method
are the endpoints registered for it.
-/

namespace Hxrpc

open ZooKeeper ZkClient ZkResolver

namespace ZkRegistrar

/-- `Register` one after another, up to the first that fails. -/
def registerAll (tree : Tree) : List Registration → Except RpcError Tree
  | [] => .ok tree
  | registration :: rest =>
      match register tree registration.session registration.serviceName registration.methodName
        registration.endpoint with
      | (.ok (), next) => registerAll next rest
      | (.error error, _) => .error error

/-- A non-empty name without a separator. -/
def IsName (name : Bytes) : Prop := name ≠ [] ∧ slash ∉ name

instance (name : Bytes) : Decidable (IsName name) :=
  inferInstanceAs (Decidable (_ ∧ _))

namespace Registration

/-- Names that fit into a path, an endpoint that fits into a node. -/
structure Publishable (registration : Registration) : Prop where
  service : IsName registration.serviceName
  method : IsName registration.methodName
  host : IsName registration.endpoint.host
  colon : 58 ∉ registration.endpoint.host
  port : registration.endpoint.port ≠ 0
  short : registration.endpoint.toString.length ≤ 512

/-- No name and no host holds a NUL. -/
structure Terminated (registration : Registration) : Prop where
  service : 0 ∉ registration.serviceName
  method : 0 ∉ registration.methodName
  host : 0 ∉ registration.endpoint.host

theorem Publishable.nameable {registration : Registration} (publishable : registration.Publishable)
    (terminated : registration.Terminated) : registration.Nameable where
  service := ⟨publishable.service.2, terminated.service⟩
  method := ⟨publishable.method.2, terminated.method⟩
  host := ⟨publishable.host.2, terminated.host⟩
  short := Nat.lt_of_le_of_lt publishable.short (by decide)

end Registration

/-! ## The tree behind the registrations -/

/-- A call for a node that exists or whose parent exists succeeds; its node is there, and none other
is new. -/
theorem createNode_of_known {tree : Tree} (session : Nat) {call : CreateCall}
    (known : cStr call.path ∈ tree ∨ parentPath (cStr call.path) ∈ tree) :
    ∃ next, createNode tree session call = (.ok (), next) ∧
      (∀ path, path ∈ next ↔ path = cStr call.path ∨ path ∈ tree) ∧
      ∀ path node, next.lookup path = some node → tree.lookup path = some node ∨
        path = cStr call.path ∧ node = call.node session := by
  by_cases present : cStr call.path ∈ tree
  · refine ⟨tree, createNode_eq_ok_iff.mpr (Or.inl ⟨present, rfl⟩), ?_,
      fun _ _ found => Or.inl found⟩
    intro path
    rw [iff_or_self]
    rintro rfl
    exact present
  · refine ⟨_, createNode_eq_ok_iff.mpr (Or.inr ⟨present, known.resolve_left present, rfl⟩),
      fun path => AList.mem_insert tree, ?_⟩
    intro path node found
    by_cases same : path = cStr call.path
    · subst same
      rw [AList.lookup_insert] at found
      exact Or.inr ⟨rfl, (Option.some.inj found).symm⟩
    · rw [AList.lookup_insert_ne same] at found
      exact Or.inl found

/-- Calls in order all succeed; the nodes of the calls are there, and none other is new. -/
theorem createNodes_of_ordered {tree : Tree} (session : Nat) {known : List Bytes}
    {calls : List CreateCall} (known_mem : ∀ path ∈ known, path ∈ tree)
    (ordered : Ordered known calls) :
    ∃ next, createNodes tree session calls = (.ok (), next) ∧
      (∀ path, path ∈ next ↔ path ∈ tree ∨ ∃ call ∈ calls, path = cStr call.path) ∧
      ∀ path node, next.lookup path = some node → tree.lookup path = some node ∨
        ∃ call ∈ calls, path = cStr call.path ∧ node = call.node session := by
  induction calls generalizing tree known with
  | nil => exact ⟨tree, rfl, by simp, fun _ _ found => Or.inl found⟩
  | cons call rest ih =>
      -- The first call leaves the tree as it is or adds its node; the rest starts from there.
      obtain ⟨middle, created, middle_mem, middle_lookup⟩ :=
        createNode_of_known session (ordered.1.imp (known_mem _) (known_mem _))
      have known_middle : ∀ path ∈ cStr call.path :: known, path ∈ middle := by
        intro path member
        rw [middle_mem]
        exact (List.mem_cons.mp member).imp_right (known_mem path)
      obtain ⟨next, all_created, next_mem, next_lookup⟩ := ih known_middle ordered.2
      refine ⟨next, by simp only [createNodes, created, all_created], ?_, ?_⟩
      · intro path
        rw [next_mem, middle_mem]
        simp only [List.mem_cons, exists_eq_or_imp]
        tauto
      · intro path node found
        rcases next_lookup path node found with found | ⟨other, member, same, node_eq⟩
        · rcases middle_lookup path node found with found | ⟨same, node_eq⟩
          · exact Or.inl found
          · exact Or.inr ⟨call, List.mem_cons_self, same, node_eq⟩
        · exact Or.inr ⟨other, List.mem_cons_of_mem _ member, same, node_eq⟩

/-- The tree holds the paths of the registrations and nothing else, and the node of an instance
holds its endpoint. -/
structure Published (registrations : List Registration) (tree : Tree) : Prop where
  mem : ∀ path, path ∈ tree ↔ path = root ∨ ∃ registration ∈ registrations,
    path = registration.servicePath ∨ path = registration.methodPath ∨
      path = registration.instancePath
  data : ∀ registration : Registration, registration.Nameable → ∀ node,
    tree.lookup registration.instancePath = some node →
      node.data = some registration.endpoint.toString

theorem mem_newTree_iff {path : Bytes} : path ∈ newTree ↔ path = root := by
  simp [newTree, AList.mem_keys]

theorem Registration.instancePath_ne_root (registration : Registration) :
    registration.instancePath ≠ root := by
  simp [instancePath_eq, methodPath_eq, servicePath_eq, root]

theorem published_newTree : Published [] newTree where
  mem := by simp [mem_newTree_iff]
  data := by
    intro registration nameable node found
    have member : registration.instancePath ∈ newTree :=
      AList.lookup_isSome.mp (by simp [found])
    exact absurd (mem_newTree_iff.mp member) registration.instancePath_ne_root

/-- A registration succeeds and adds its paths. -/
theorem published_register {registrations : List Registration} {tree : Tree}
    (published : Published registrations tree) {registration : Registration}
    (nameable : registration.Nameable) :
    ∃ next, register tree registration.session registration.serviceName registration.methodName
        registration.endpoint = (.ok (), next) ∧
      Published (registrations ++ [registration]) next := by
  have root_mem : ∀ path ∈ [root], path ∈ tree := by
    intro path member
    exact (published.mem path).mpr (Or.inl (List.mem_singleton.mp member))
  obtain ⟨next, created, next_mem, next_lookup⟩ :=
    createNodes_of_ordered registration.session root_mem nameable.ordered_calls
  refine ⟨next, (register_eq_createNodes _ _ _ _ _).trans created, ?_, ?_⟩
  · intro path
    have paths : (∃ call ∈ registration.calls, path = cStr call.path) ↔
        path = registration.servicePath ∨ path = registration.methodPath ∨
          path = registration.instancePath := by
      simp [nameable.mem_calls_iff, Registration.directory, nameable.cStr_servicePath,
        nameable.cStr_methodPath, nameable.cStr_instancePath]
    rw [next_mem, published.mem, paths]
    simp only [List.mem_append, List.mem_singleton, or_and_right, exists_or, exists_eq_left,
      or_assoc]
  · intro other other_nameable node found
    rcases next_lookup _ node found with found | ⟨call, member, same, rfl⟩
    · exact published.data other other_nameable node found
    · exact nameable.data_of_instancePath other_nameable member same.symm _

theorem published_registerAll {done registrations : List Registration} {tree : Tree}
    (published : Published done tree)
    (nameable : ∀ registration ∈ registrations, registration.Nameable) :
    ∃ next, registerAll tree registrations = .ok next ∧
      Published (done ++ registrations) next := by
  induction registrations generalizing done tree with
  | nil => exact ⟨tree, rfl, by simpa using published⟩
  | cons registration rest ih =>
      obtain ⟨middle, registered, published⟩ :=
        published_register published (nameable registration List.mem_cons_self)
      obtain ⟨next, all_registered, published⟩ :=
        ih published fun other member => nameable other (List.mem_cons_of_mem _ member)
      exact ⟨next, by simp only [registerAll, registered, all_registered],
        by simpa using published⟩

/-! ## The children of a method -/

section Children

variable {registrations : List Registration} {tree : Tree} {serviceName methodName : Bytes}

/-- A registration that stands for the path of a method. -/
def methodProbe (serviceName methodName : Bytes) : Registration :=
  ⟨0, serviceName, methodName, ⟨[], 0⟩⟩

theorem nameable_methodProbe (service : slash ∉ serviceName ∧ 0 ∉ serviceName)
    (method : slash ∉ methodName ∧ 0 ∉ methodName) :
    (methodProbe serviceName methodName).Nameable where
  service := service
  method := method
  host := by simp [methodProbe]
  short := show (Endpoint.toString ⟨[], 0⟩).length < 2 ^ 31 by decide

theorem methodPath_inj {left right : Registration} (left_nameable : left.Nameable)
    (right_nameable : right.Nameable) (same : left.methodPath = right.methodPath) :
    left.serviceName = right.serviceName ∧ left.methodName = right.methodName := by
  rw [Registration.methodPath_eq, Registration.methodPath_eq] at same
  obtain ⟨services, methods⟩ := Decimal.append_cons_inj_of_notMem left_nameable.method.1
    right_nameable.method.1 same
  exact ⟨(List.cons.inj services).2, methods⟩

theorem Registration.methodPath_ne_nil (registration : Registration) :
    registration.methodPath ≠ [] := by
  simp [methodPath_eq]

theorem Registration.methodPath_ne_root (registration : Registration) :
    registration.methodPath ≠ root := by
  simp [methodPath_eq, servicePath_eq, root]

theorem methodPath_congr {left right : Registration}
    (services : left.serviceName = right.serviceName)
    (methods : left.methodName = right.methodName) : left.methodPath = right.methodPath := by
  rw [Registration.methodPath, Registration.methodPath, services, methods]

/-- The number of separators says what a path in the tree is: the root or a service, a method, or an
instance. -/
theorem Published.level (published : Published registrations tree)
    (nameable : ∀ registration ∈ registrations, registration.Nameable) {path : Bytes}
    (member : path ∈ tree) : path.count slash = 1 ∨
      path.count slash = 2 ∧ (∃ registration ∈ registrations, path = registration.methodPath) ∨
      path.count slash = 3 ∧ ∃ registration ∈ registrations, path = registration.instancePath := by
  rcases (published.mem path).mp member with rfl | ⟨registration, listed, rfl | rfl | rfl⟩
  · exact Or.inl rfl
  · exact Or.inl (nameable _ listed).count_servicePath
  · exact Or.inr (Or.inl ⟨(nameable _ listed).count_methodPath, registration, listed, rfl⟩)
  · exact Or.inr (Or.inr ⟨(nameable _ listed).count_instancePath, registration, listed, rfl⟩)

/-- The names below the path of a method are the endpoints registered for it. -/
theorem mem_childNames_iff (published : Published registrations tree)
    (nameable : ∀ registration ∈ registrations, registration.Nameable)
    {probe : Registration} (probe_nameable : probe.Nameable) {child : Bytes} :
    child ∈ childNames tree probe.methodPath ↔ ∃ registration ∈ registrations,
      registration.serviceName = probe.serviceName ∧
      registration.methodName = probe.methodName ∧ child = registration.endpoint.toString := by
  rw [mem_childNames probe.methodPath_ne_nil probe.methodPath_ne_root]
  constructor
  · rintro ⟨member, absent⟩
    have three : (probe.methodPath ++ slash :: child).count slash = 3 := by
      simp [probe_nameable.count_methodPath, List.count_eq_zero.mpr absent]
    rcases published.level nameable member with one | ⟨two, -⟩ | ⟨-, registration, listed, same⟩
    · omega
    · omega
    · rw [Registration.instancePath_eq] at same
      obtain ⟨paths, rfl⟩ := Decimal.append_cons_inj_of_notMem absent
        (nameable _ listed).instance_name.1 same
      obtain ⟨services, methods⟩ := methodPath_inj (nameable _ listed) probe_nameable paths.symm
      exact ⟨registration, listed, services, methods, rfl⟩
  · rintro ⟨registration, listed, services, methods, rfl⟩
    rw [← methodPath_congr services methods, ← Registration.instancePath_eq]
    exact ⟨(published.mem _).mpr (Or.inr ⟨registration, listed, Or.inr (Or.inr rfl)⟩),
      (nameable _ listed).instance_name.1⟩

/-- The path of a method exists when something is registered for it. -/
theorem mem_methodPath_iff (published : Published registrations tree)
    (nameable : ∀ registration ∈ registrations, registration.Nameable)
    {probe : Registration} (probe_nameable : probe.Nameable) :
    probe.methodPath ∈ tree ↔ ∃ registration ∈ registrations,
      registration.serviceName = probe.serviceName ∧
        registration.methodName = probe.methodName := by
  constructor
  · intro member
    have two := probe_nameable.count_methodPath
    rcases published.level nameable member with one | ⟨-, registration, listed, same⟩ | ⟨three, -⟩
    · omega
    · obtain ⟨services, methods⟩ := methodPath_inj (nameable _ listed) probe_nameable same.symm
      exact ⟨registration, listed, services, methods⟩
    · omega
  · rintro ⟨registration, listed, services, methods⟩
    rw [published.mem]
    exact Or.inr ⟨registration, listed, Or.inr (Or.inl (methodPath_congr services methods).symm)⟩

end Children

/-! ## Reading back -/

/-- Endpoints with the same text are the same. -/
theorem Registration.Publishable.endpoint_inj {left right : Registration}
    (left_publishable : left.Publishable) (right_publishable : right.Publishable)
    (same : left.endpoint.toString = right.endpoint.toString) :
    left.endpoint = right.endpoint := by
  have parsed := parseEndpoint_toString left_publishable.colon left_publishable.host.1
    left_publishable.port
  rw [same, parseEndpoint_toString right_publishable.colon right_publishable.host.1
    right_publishable.port] at parsed
  exact (Except.ok.inj parsed).symm

/-- The loop over children that can all be read. -/
theorem readInstances_of_forall {tree : Tree} {methodPath : Bytes} {children : List Bytes}
    {listed : Endpoint → Prop}
    (readable : ∀ child ∈ children, ∃ endpoint, listed endpoint ∧ endpoint.toString = child ∧
      readInstance tree methodPath child = some (some ⟨child, endpoint⟩)) :
    ∃ instances, readInstances tree methodPath children = some instances ∧
      instances.map (·.id) = children ∧
      ∀ «instance» ∈ instances, listed «instance».endpoint ∧
        «instance».endpoint.toString = «instance».id := by
  induction children with
  | nil => exact ⟨[], rfl, rfl, by simp⟩
  | cons child rest ih =>
      obtain ⟨endpoint, known, text_eq, read⟩ := readable child List.mem_cons_self
      obtain ⟨instances, read_rest, ids, all⟩ :=
        ih fun other member => readable other (List.mem_cons_of_mem _ member)
      refine ⟨⟨child, endpoint⟩ :: instances, ?_, by simp [ids], ?_⟩
      · simp [readInstances, read, read_rest]
      · intro other member
        rcases List.mem_cons.mp member with rfl | member
        · exact ⟨known, text_eq⟩
        · exact all other member

/-- The node of a registration is read back as its endpoint. -/
theorem readInstance_of_published {registrations : List Registration} {tree : Tree}
    (published : Published registrations tree) {registration : Registration}
    (listed : registration ∈ registrations) (publishable : registration.Publishable)
    (terminated : registration.Terminated) :
    readInstance tree registration.methodPath registration.endpoint.toString =
      some (some ⟨registration.endpoint.toString, registration.endpoint⟩) := by
  have nameable := publishable.nameable terminated
  have member : registration.instancePath ∈ tree :=
    (published.mem _).mpr (Or.inr ⟨registration, listed, Or.inr (Or.inr rfl)⟩)
  obtain ⟨node, found⟩ := Option.isSome_iff_exists.mp (AList.lookup_isSome.mpr member)
  have path_eq : registration.methodPath ++ text "/" ++ registration.endpoint.toString =
      registration.instancePath := rfl
  have whole : registration.endpoint.toString.take 512 = registration.endpoint.toString :=
    List.take_of_length_le publishable.short
  have data : getData tree registration.instancePath =
      some (.ok registration.endpoint.toString) := by
    rw [getData, zooGet_eq_ok nameable.cStr_instancePath found,
      published.data registration nameable node found]
    simp [whole]
  rw [readInstance, path_eq, data]
  simp [parseEndpoint_toString publishable.colon publishable.host.1 publishable.port]

/-- The endpoint is registered for the method. -/
def RegisteredFor (registrations : List Registration) (serviceName methodName : Bytes)
    (endpoint : Endpoint) : Prop :=
  ∃ registration ∈ registrations, registration.serviceName = serviceName ∧
    registration.methodName = methodName ∧ registration.endpoint = endpoint

/-- `RefreshMethod` on a path that exists returns the endpoints registered for it. -/
theorem refreshMethod_of_published {registrations : List Registration} {tree : Tree}
    (published : Published registrations tree)
    (publishable : ∀ registration ∈ registrations, registration.Publishable)
    (terminated : ∀ registration ∈ registrations, registration.Terminated)
    {probe : Registration} (probe_nameable : probe.Nameable) (exists_path : probe.methodPath ∈ tree)
    {arrange : List Bytes → List Bytes} (perm : ∀ names, (arrange names).Perm names)
    (cache : Cache) :
    ∃ instances, refreshMethod arrange tree cache probe.serviceName probe.methodName =
        some (.ok instances, Function.update cache probe.methodPath (some instances)) ∧
      (instances.map (·.endpoint)).Nodup ∧
      ∀ endpoint, endpoint ∈ instances.map (·.endpoint) ↔
        RegisteredFor registrations probe.serviceName probe.methodName endpoint := by
  have nameable : ∀ registration ∈ registrations, registration.Nameable :=
    fun registration listed =>
      (publishable registration listed).nameable (terminated registration listed)
  let children := arrange (childNames tree probe.methodPath)
  have mem_children : ∀ child, child ∈ children ↔ _ :=
    fun child => (perm _).mem_iff.trans (mem_childNames_iff published nameable probe_nameable)
  have readable : ∀ child ∈ children, ∃ endpoint,
      RegisteredFor registrations probe.serviceName probe.methodName endpoint ∧
      endpoint.toString = child ∧
      readInstance tree probe.methodPath child = some (some ⟨child, endpoint⟩) := by
    intro child member
    obtain ⟨registration, listed, services, methods, rfl⟩ := (mem_children child).mp member
    refine ⟨registration.endpoint, ⟨registration, listed, services, methods, rfl⟩, rfl, ?_⟩
    rw [← methodPath_congr services methods]
    exact readInstance_of_published published listed (publishable _ listed) (terminated _ listed)
  obtain ⟨instances, read, ids, all⟩ := readInstances_of_forall readable
  refine ⟨instances, ?_, ?_, ?_⟩
  · have children_eq : zooGetChildren tree probe.methodPath =
        .ok (childNames tree probe.methodPath) := by
      rw [zooGetChildren, probe_nameable.cStr_methodPath, if_pos exists_path]
    have path_eq : buildMethodPath probe.serviceName probe.methodName = probe.methodPath := rfl
    simp only [refreshMethod, path_eq, children_eq]
    rw [show arrange (childNames tree probe.methodPath) = children from rfl, read]
    rfl
  · -- The names of the instances are the texts of their endpoints, and no name is listed twice.
    have texts : (instances.map (·.endpoint)).map Endpoint.toString = children := by
      rw [← ids, List.map_map]
      exact List.map_congr_left fun «instance» member => (all «instance» member).2
    have nodup : children.Nodup := (perm _).nodup_iff.mpr
      (nodup_childNames probe.methodPath_ne_nil probe.methodPath_ne_root)
    rw [← texts] at nodup
    exact nodup.of_map
  · intro endpoint
    rw [List.mem_map]
    constructor
    · rintro ⟨«instance», member, rfl⟩
      exact (all «instance» member).1
    · rintro ⟨registration, listed, services, methods, rfl⟩
      have member : registration.endpoint.toString ∈ children :=
        (mem_children _).mpr ⟨registration, listed, services, methods, rfl⟩
      rw [← ids, List.mem_map] at member
      obtain ⟨«instance», member, same⟩ := member
      refine ⟨«instance», member, ?_⟩
      obtain ⟨⟨other, other_listed, -, -, other_eq⟩, text_eq⟩ := all «instance» member
      have texts : «instance».endpoint.toString = registration.endpoint.toString :=
        text_eq.trans same
      rw [← other_eq] at texts ⊢
      exact (publishable _ other_listed).endpoint_inj (publishable _ listed) texts

/-- A path is taken apart as it was put together. -/
theorem splitMethodPath_buildMethodPath {serviceName methodName : Bytes}
    (absent : slash ∉ methodName) :
    splitMethodPath (buildMethodPath serviceName methodName) = some (serviceName, methodName) := by
  rw [buildMethodPath_eq, splitMethodPath, SlashPath.lastIndex_append _ absent]
  simp

/-- What registrars publish is what resolvers read: all registrations succeed, and behind them
`RefreshMethod` returns the endpoints registered for a method, each of them once.  It fails when
there are none.  `OnMethodChanged` on the path of the method refreshes the same entry. -/
theorem published_endpoints_are_read {registrations : List Registration}
    (publishable : ∀ registration ∈ registrations, registration.Publishable)
    (terminated : ∀ registration ∈ registrations, registration.Terminated) :
    ∃ tree, registerAll newTree registrations = .ok tree ∧
      ∀ serviceName methodName : Bytes, IsName serviceName → IsName methodName →
        0 ∉ serviceName → 0 ∉ methodName →
        ∀ arrange : List Bytes → List Bytes, (∀ names, (arrange names).Perm names) →
        ∀ cache : Cache,
          ((∃ registration ∈ registrations, registration.serviceName = serviceName ∧
              registration.methodName = methodName) →
            ∃ instances, refreshMethod arrange tree cache serviceName methodName =
                some (.ok instances, Function.update cache
                  (buildMethodPath serviceName methodName) (some instances)) ∧
              (instances.map (·.endpoint)).Nodup ∧
              ∀ endpoint, endpoint ∈ instances.map (·.endpoint) ↔
                RegisteredFor registrations serviceName methodName endpoint) ∧
          ((¬ ∃ registration ∈ registrations, registration.serviceName = serviceName ∧
              registration.methodName = methodName) →
            refreshMethod arrange tree cache serviceName methodName =
              some (.error (zkError "zoo_wget_children failed"), cache)) ∧
          onMethodChanged arrange tree cache (buildMethodPath serviceName methodName) =
            (refreshMethod arrange tree cache serviceName methodName).map (·.2) := by
  have nameable : ∀ registration ∈ registrations, registration.Nameable :=
    fun registration listed =>
      (publishable registration listed).nameable (terminated registration listed)
  obtain ⟨tree, registered, published⟩ := published_registerAll published_newTree nameable
  rw [List.nil_append] at published
  refine ⟨tree, registered, ?_⟩
  intro serviceName methodName service method service_end method_end arrange perm cache
  have probe_nameable := nameable_methodProbe ⟨service.2, service_end⟩ ⟨method.2, method_end⟩
  have cStr_path : cStr (buildMethodPath serviceName methodName) =
      buildMethodPath serviceName methodName := probe_nameable.cStr_methodPath
  have path_mem : buildMethodPath serviceName methodName ∈ tree ↔ _ :=
    mem_methodPath_iff published nameable probe_nameable
  refine ⟨?_, ?_, ?_⟩
  · intro used
    exact refreshMethod_of_published published publishable terminated probe_nameable
      (path_mem.mpr used) perm cache
  · intro unused
    have missing : zooGetChildren tree (buildMethodPath serviceName methodName) =
        .error .noNode := by
      rw [zooGetChildren, cStr_path, if_neg (fun member => unused (path_mem.mp member))]
    simp [refreshMethod, missing]
  · rw [onMethodChanged, splitMethodPath_buildMethodPath method.2]

theorem publishable_loginServers (second : Bool) : (loginServers second).Publishable := by
  cases second <;> exact ⟨by decide, by decide, by decide, by decide, by decide, by decide⟩

theorem terminated_loginServers (second : Bool) : (loginServers second).Terminated := by
  cases second <;> exact ⟨by decide, by decide, by decide⟩

/-- Two servers register for one method, the first of them twice. -/
theorem published_loginServers_are_read :
    ∃ tree instances behind,
      registerAll newTree [loginServers false, loginServers true, loginServers false] = .ok tree ∧
      refreshMethod List.reverse tree (fun _ => none) (text "User") (text "Login") =
        some (.ok instances, behind) ∧
      (instances.map (·.endpoint)).Nodup ∧
      ⟨text "h", 80⟩ ∈ instances.map (·.endpoint) ∧
      ⟨text "h", 81⟩ ∈ instances.map (·.endpoint) := by
  have publishable : ∀ registration ∈
      [loginServers false, loginServers true, loginServers false], registration.Publishable := by
    intro registration member
    simp only [List.mem_cons, List.not_mem_nil, or_false] at member
    rcases member with rfl | rfl | rfl <;> exact publishable_loginServers _
  have terminated : ∀ registration ∈
      [loginServers false, loginServers true, loginServers false], registration.Terminated := by
    intro registration member
    simp only [List.mem_cons, List.not_mem_nil, or_false] at member
    rcases member with rfl | rfl | rfl <;> exact terminated_loginServers _
  obtain ⟨tree, registered, reads⟩ := published_endpoints_are_read publishable terminated
  obtain ⟨found, -⟩ := reads (text "User") (text "Login") (by decide) (by decide) (by decide)
    (by decide) List.reverse (fun names => names.reverse_perm) fun _ => none
  obtain ⟨instances, refreshed, nodup, endpoints⟩ := found ⟨loginServers false, by simp, rfl, rfl⟩
  exact ⟨tree, instances, _, registered, refreshed, nodup,
    (endpoints _).mpr ⟨loginServers false, by simp, rfl, rfl, rfl⟩,
    (endpoints _).mpr ⟨loginServers true, by simp, rfl, rfl, rfl⟩⟩

/-- A service whose name ends with a NUL: all three paths are cut at it. -/
def nulServer : Registration := ⟨1, [97, 0], text "m", ⟨text "h", 80⟩⟩

/-- The registration of that service succeeds, and reading it back returns no endpoint. -/
theorem published_nulServer_is_lost :
    ¬ ∀ (registrations : List Registration) (tree : Tree),
      (∀ registration ∈ registrations, registration.Publishable) →
      registerAll newTree registrations = .ok tree →
      ∀ registration ∈ registrations, ∃ instances behind,
        refreshMethod (fun names => names) tree (fun _ => none) registration.serviceName
          registration.methodName = some (.ok instances, behind) ∧
        registration.endpoint ∈ instances.map (·.endpoint) := by
  intro reads
  have publishable : ∀ registration ∈ [nulServer], registration.Publishable := by
    intro registration member
    obtain rfl := List.mem_singleton.mp member
    exact ⟨by decide, by decide, by decide, by decide, by decide, by decide⟩
  obtain ⟨instances, behind, refreshed, member⟩ := reads [nulServer]
    (register newTree 1 [97, 0] (text "m") ⟨text "h", 80⟩).2 publishable rfl nulServer (by simp)
  have nothing : refreshMethod (fun names => names)
      (register newTree 1 [97, 0] (text "m") ⟨text "h", 80⟩).2 (fun _ => none) nulServer.serviceName
      nulServer.methodName = some (.ok [], _) := rfl
  obtain ⟨same, -⟩ := Prod.mk.inj (Option.some.inj (nothing.symm.trans refreshed))
  obtain rfl := Except.ok.inj same
  cases member

end ZkRegistrar

end Hxrpc
