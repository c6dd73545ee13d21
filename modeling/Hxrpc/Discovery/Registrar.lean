import Hxrpc.Discovery.ZooKeeper

/-!
# Registration of an endpoint

`ZkClient::CreateNode` and `EnsurePath` as the calls of `CreateNode` that they make, and
`ZkRegistrar::Register` on a tree that nobody else changes in the meantime.  A node that is there
already counts as a success, whoever owns it, so the node of a registered endpoint lasts as long as
the session of its owner, which may be another one.
-/

namespace Hxrpc

open RpcStatusCode
open ZooKeeper

namespace ZkResolver

/-- `BuildServicePath`. -/
def buildServicePath (serviceName : Bytes) : Bytes := text "/" ++ serviceName

/-- `BuildMethodPath`. -/
def buildMethodPath (serviceName methodName : Bytes) : Bytes :=
  buildServicePath serviceName ++ text "/" ++ methodName

/-- `BuildInstancePath`. -/
def buildInstancePath (serviceName methodName instanceId : Bytes) : Bytes :=
  buildMethodPath serviceName methodName ++ text "/" ++ instanceId

end ZkResolver

namespace ZkClient

/-- The arguments of one call of `CreateNode`. -/
structure CreateCall where
  /-- `path`. -/
  path : Bytes
  /-- `data` with its size. -/
  data : Bytes
  /-- `flags` is `ZOO_EPHEMERAL`. -/
  ephemeral : Bool
  deriving DecidableEq

/-- The node that a call creates in a session. -/
def CreateCall.node (call : CreateCall) (session : Nat) : Node :=
  ⟨createdData call.data, if call.ephemeral then some session else none⟩

/-- An error of the discovery layer. -/
def zkError (message : String) : RpcError := ⟨kDiscoveryError, text message⟩

/-- `CreateNode`. -/
def createNode (tree : Tree) (session : Nat) (call : CreateCall) : Except RpcError Unit × Tree :=
  match zooExists tree call.path with
  | .ok () => (.ok (), tree)
  | .error .noNode =>
      match zooCreate tree call.path (call.node session) with
      | .ok next => (.ok (), next)
      | .error _ => (.error (zkError "zoo_create failed"), tree)
  | .error _ => (.error (zkError "zoo_exists failed"), tree)

/-- Calls of `CreateNode` one after another, up to the first that fails. -/
def createNodes (tree : Tree) (session : Nat) : List CreateCall → Except RpcError Unit × Tree
  | [] => (.ok (), tree)
  | call :: rest =>
      match createNode tree session call with
      | (.ok (), next) => createNodes next session rest
      | (.error error, next) => (.error error, next)

/-- The calls that `EnsurePath` makes: one for each separator behind the first byte, and one for the
whole path. -/
def ensurePathCalls (path : Bytes) : List CreateCall :=
  if cStr path = root then []
  else
    match cStr path with
    | [] => []
    | first :: rest => (SlashPath.stems slash [first] rest).map fun current => ⟨current, [], false⟩

/-- `EnsurePath`. -/
def ensurePath (tree : Tree) (session : Nat) (path : Bytes) : Except RpcError Unit × Tree :=
  createNodes tree session (ensurePathCalls path)

end ZkClient

namespace ZkRegistrar

open ZkClient ZkResolver

/-- The node of an instance, as `Register` asks for it. -/
def instanceCall (serviceName methodName : Bytes) (endpoint : Endpoint) : CreateCall :=
  ⟨buildInstancePath serviceName methodName endpoint.toString, endpoint.toString, true⟩

/-- `Register`. -/
def register (tree : Tree) (session : Nat) (serviceName methodName : Bytes) (endpoint : Endpoint) :
    Except RpcError Unit × Tree :=
  match ensurePath tree session (buildServicePath serviceName) with
  | (.error error, next) => (.error error, next)
  | (.ok (), withService) =>
      match ensurePath withService session (buildMethodPath serviceName methodName) with
      | (.error error, next) => (.error error, next)
      | (.ok (), withMethod) =>
          createNode withMethod session (instanceCall serviceName methodName endpoint)

/-- All calls of `CreateNode` of one registration. -/
def registerCalls (serviceName methodName : Bytes) (endpoint : Endpoint) : List CreateCall :=
  ensurePathCalls (buildServicePath serviceName) ++
    ensurePathCalls (buildMethodPath serviceName methodName) ++
      [instanceCall serviceName methodName endpoint]

end ZkRegistrar

namespace ZkResolver

theorem buildMethodPath_eq (serviceName methodName : Bytes) :
    buildMethodPath serviceName methodName = (slash :: serviceName) ++ slash :: methodName := by
  simp [buildMethodPath, buildServicePath, text, slash]

end ZkResolver

/-! ## Creating nodes one after another -/

namespace ZkClient

theorem createNodes_append (tree : Tree) (session : Nat) (first second : List CreateCall) :
    createNodes tree session (first ++ second) =
      match createNodes tree session first with
      | (.ok (), next) => createNodes next session second
      | (.error error, next) => (.error error, next) := by
  induction first generalizing tree with
  | nil => rfl
  | cons call first ih =>
      simp only [List.cons_append, createNodes]
      split
      · exact ih _
      · rfl

theorem createNodes_singleton (tree : Tree) (session : Nat) (call : CreateCall) :
    createNodes tree session [call] = createNode tree session call := by
  simp only [createNodes]
  split <;> simp_all

/-- A successful `CreateNode` leaves the tree with the node as it was, or adds it below
its parent. -/
theorem createNode_eq_ok_iff {tree next : Tree} {session : Nat} {call : CreateCall} :
    createNode tree session call = (.ok (), next) ↔
      cStr call.path ∈ tree ∧ next = tree ∨
      cStr call.path ∉ tree ∧ parentPath (cStr call.path) ∈ tree ∧
        next = tree.insert (cStr call.path) (call.node session) := by
  by_cases present : cStr call.path ∈ tree
  · simp [createNode, zooExists, present, eq_comm]
  · by_cases parent : parentPath (cStr call.path) ∈ tree
    · simp [createNode, zooExists, zooCreate, present, parent, eq_comm]
    · simp [createNode, zooExists, zooCreate, present, parent]

/-- Nodes that exist stay as they are; new ones are persistent or belong to the session. -/
structure Extends (session : Nat) (tree next : Tree) : Prop where
  kept : ∀ path node, tree.lookup path = some node → next.lookup path = some node
  added : ∀ path node, tree.lookup path = none → next.lookup path = some node →
    node.owner = none ∨ node.owner = some session

theorem Extends.refl (session : Nat) (tree : Tree) : Extends session tree tree where
  kept := fun _ _ found => found
  added := by
    intro path node absent found
    simp [absent] at found

theorem Extends.trans {session : Nat} {tree middle next : Tree}
    (first : Extends session tree middle) (second : Extends session middle next) :
    Extends session tree next where
  kept := fun path node found => second.kept path node (first.kept path node found)
  added := by
    intro path node absent found
    cases before : middle.lookup path with
    | none => exact second.added path node before found
    | some other =>
        have same : node = other := by
          have kept := second.kept path other before
          exact Option.some.inj (found.symm.trans kept)
        exact same ▸ first.added path other absent before

theorem extends_of_createNode {tree next : Tree} {session : Nat} {call : CreateCall}
    (created : createNode tree session call = (.ok (), next)) : Extends session tree next := by
  rcases createNode_eq_ok_iff.mp created with ⟨-, rfl⟩ | ⟨absent, -, rfl⟩
  · exact Extends.refl session next
  · constructor
    · intro path node found
      have ne : path ≠ cStr call.path := by
        rintro rfl
        simp [AList.lookup_eq_none.mpr absent] at found
      rw [AList.lookup_insert_ne ne]
      exact found
    · intro path node before found
      by_cases same : path = cStr call.path
      · subst same
        rw [AList.lookup_insert] at found
        obtain rfl := Option.some.inj found
        cases ephemeral : call.ephemeral <;> simp [CreateCall.node, ephemeral]
      · rw [AList.lookup_insert_ne same, before] at found
        cases found

theorem extends_of_createNodes {tree next : Tree} {session : Nat} {calls : List CreateCall}
    (created : createNodes tree session calls = (.ok (), next)) : Extends session tree next := by
  induction calls generalizing tree with
  | nil =>
      obtain rfl : tree = next := congrArg Prod.snd created
      exact Extends.refl session tree
  | cons call calls ih =>
      simp only [createNodes] at created
      split at created
      · rename_i middle first
        exact (extends_of_createNode first).trans (ih created)
      · cases created

end ZkClient

/-! ## How long a registration lasts -/

namespace ZkRegistrar

open ZkClient ZkResolver

theorem register_eq_createNodes (tree : Tree) (session : Nat) (serviceName methodName : Bytes)
    (endpoint : Endpoint) :
    register tree session serviceName methodName endpoint =
      createNodes tree session (registerCalls serviceName methodName endpoint) := by
  rw [registerCalls, createNodes_append, createNodes_append, register, ensurePath]
  rcases createNodes tree session (ensurePathCalls (buildServicePath serviceName)) with
    ⟨error | _, next⟩
  · rfl
  · simp only [ensurePath]
    rcases createNodes next session
      (ensurePathCalls (buildMethodPath serviceName methodName)) with ⟨error | _, last⟩
    · rfl
    · exact (createNodes_singleton _ _ _).symm

/-- The node of the instance exists behind a successful registration. -/
theorem mem_of_register {tree next : Tree} {session : Nat} {serviceName methodName : Bytes}
    {endpoint : Endpoint}
    (registered : register tree session serviceName methodName endpoint = (.ok (), next)) :
    cStr (buildInstancePath serviceName methodName endpoint.toString) ∈ next := by
  simp only [register] at registered
  split at registered
  · cases registered
  · split at registered
    · cases registered
    · rcases createNode_eq_ok_iff.mp registered with ⟨present, rfl⟩ | ⟨-, -, rfl⟩
      · exact present
      · exact (AList.mem_insert _).mpr (Or.inl rfl)

/-- A node outlives the end of any sessions but that of its owner. -/
theorem lookup_foldl_endSession (tree : Tree) (ended : List Nat) (path : Bytes) :
    (ended.foldl endSession tree).lookup path =
      (tree.lookup path).filter fun node => ∀ session ∈ ended, node.owner ≠ some session := by
  induction ended generalizing tree with
  | nil =>
      rw [List.foldl_nil]
      cases tree.lookup path <;> rfl
  | cons session ended ih =>
      rw [List.foldl_cons, ih, lookup_endSession, Option.filter_filter]
      congr 1
      funext node
      simp

/-- The node of a successful registration outlives the end of all other sessions exactly when it was
not there before as the ephemeral node of another session. -/
theorem registration_outlives_other_sessions {tree next : Tree} {session : Nat}
    {serviceName methodName : Bytes} {endpoint : Endpoint}
    (registered : register tree session serviceName methodName endpoint = (.ok (), next)) :
    (∀ ended : List Nat, session ∉ ended →
      zooExists (ended.foldl endSession next)
        (buildInstancePath serviceName methodName endpoint.toString) = .ok ()) ↔
      ¬ ∃ node other,
        tree.lookup (cStr (buildInstancePath serviceName methodName endpoint.toString)) =
            some node ∧
          node.owner = some other ∧ other ≠ session := by
  have present := mem_of_register registered
  obtain ⟨node, found⟩ := Option.isSome_iff_exists.mp (AList.lookup_isSome.mpr present)
  rw [register_eq_createNodes] at registered
  have grown := extends_of_createNodes registered
  constructor
  · rintro survives ⟨before, other, before_found, owner, ne⟩
    have exists_still := survives [other] (by simpa using ne.symm)
    rw [zooExists_eq_ok_iff, ← AList.lookup_isSome, lookup_foldl_endSession,
      grown.kept _ before before_found] at exists_still
    simp [owner] at exists_still
  · intro unowned ended apart
    rw [zooExists_eq_ok_iff, ← AList.lookup_isSome, lookup_foldl_endSession, found]
    have owners : node.owner = none ∨ node.owner = some session := by
      cases before : tree.lookup
          (cStr (buildInstancePath serviceName methodName endpoint.toString)) with
      | none => exact grown.added _ node before found
      | some old =>
          obtain rfl := Option.some.inj (found.symm.trans (grown.kept _ old before))
          cases owner : node.owner with
          | none => exact Or.inl rfl
          | some other =>
              refine Or.inr (congrArg some ?_)
              by_contra ne
              exact unowned ⟨node, other, before, owner, ne⟩
    have kept : ∀ other ∈ ended, node.owner ≠ some other := by
      intro other member same
      rcases owners with none_owner | own
      · simp [none_owner] at same
      · obtain rfl := Option.some.inj (own.symm.trans same)
        exact apart member
    simpa using kept

/-- `Login` of a user service, registered in a session. -/
def registerLogin (tree : Tree) (session : Nat) : Except RpcError Unit × Tree :=
  register tree session (text "User") (text "Login") ⟨text "h", 80⟩

/-- A registration in an empty tree lasts. -/
theorem registration_outlives_in_newTree :
    registerLogin newTree 1 = (.ok (), (registerLogin newTree 1).2) ∧
      ∀ ended : List Nat, 1 ∉ ended →
        zooExists (ended.foldl endSession (registerLogin newTree 1).2)
          (buildInstancePath (text "User") (text "Login") (text "h:80")) = .ok () := by
  have registered : registerLogin newTree 1 = (.ok (), (registerLogin newTree 1).2) := by rfl
  refine ⟨registered, (registration_outlives_other_sessions registered).mpr ?_⟩
  rintro ⟨node, other, found, -⟩
  have absent : newTree.lookup
      (cStr (buildInstancePath (text "User") (text "Login") (text "h:80"))) = none := by rfl
  cases absent.symm.trans found

/-- A server is started again while its former session, number 7, still lives: the registration of
the new session 1 succeeds, and its node disappears with session 7. -/
theorem registration_lost_with_former_session :
    ¬ ∀ (tree next : Tree) (session : Nat) (serviceName methodName : Bytes) (endpoint : Endpoint),
      register tree session serviceName methodName endpoint = (.ok (), next) →
      ∀ ended : List Nat, session ∉ ended →
        zooExists (ended.foldl endSession next)
          (buildInstancePath serviceName methodName endpoint.toString) = .ok () := by
  intro survives
  have registered : registerLogin (registerLogin newTree 7).2 1 =
      (.ok (), (registerLogin (registerLogin newTree 7).2 1).2) := by rfl
  have exists_still := survives _ _ _ _ _ _ registered [7] (by decide)
  cases exists_still

end ZkRegistrar

end Hxrpc
