import Hxrpc.Discovery.Registrar
import Hxrpc.Lib.Decimal
import Hxrpc.Lib.GuardedRun
import Mathlib.Logic.Relation

/-!
# Registrations at the same time

Any number of registrars send their requests in any order: every `zoo_exists` and every `zoo_create`
is a step of its own.  Between the two requests of one `CreateNode` another registrar may create the
node; then `zoo_create` fails, and the registration with it.  Runs without that succeed.
-/

namespace Hxrpc

open ZooKeeper ZkClient ZkResolver

namespace ZkRegistrar

/-- The arguments of one `Register`, and the session it runs in. -/
structure Registration where
  /-- The session of the registrar. -/
  session : Nat
  /-- `service_name`. -/
  serviceName : Bytes
  /-- `method_name`. -/
  methodName : Bytes
  /-- `endpoint`. -/
  endpoint : Endpoint

namespace Registration

/-- The calls of `CreateNode` that `Register` makes. -/
def calls (registration : Registration) : List CreateCall :=
  registerCalls registration.serviceName registration.methodName registration.endpoint

/-- `service_path`. -/
def servicePath (registration : Registration) : Bytes := buildServicePath registration.serviceName

/-- `method_path`. -/
def methodPath (registration : Registration) : Bytes :=
  buildMethodPath registration.serviceName registration.methodName

/-- `instance_path`. -/
def instancePath (registration : Registration) : Bytes :=
  buildInstancePath registration.serviceName registration.methodName registration.endpoint.toString

/-- The names and the host are names of nodes: they hold neither a separator nor a NUL, and the text
of the endpoint is not too long for an `int`. -/
structure Nameable (registration : Registration) : Prop where
  service : slash ∉ registration.serviceName ∧ 0 ∉ registration.serviceName
  method : slash ∉ registration.methodName ∧ 0 ∉ registration.methodName
  host : slash ∉ registration.endpoint.host ∧ 0 ∉ registration.endpoint.host
  short : registration.endpoint.toString.length < 2 ^ 31

end Registration

/-- A `Register` under way. -/
structure Registrar where
  /-- What it registers. -/
  registration : Registration
  /-- The calls of `CreateNode` that did not return yet; the first of them is under way. -/
  todo : List CreateCall
  /-- `zoo_exists` found no node, `zoo_create` is next. -/
  absent : Bool := false
  /-- The error it returned. -/
  failed : Option RpcError := none
  /-- How many requests it made. -/
  requests : Nat := 0

namespace Registrar

/-- What `Register` returned. -/
def returned (registrar : Registrar) : Option (Except RpcError Unit) :=
  match registrar.failed, registrar.todo with
  | some error, _ => some (.error error)
  | none, [] => some (.ok ())
  | none, _ :: _ => none

/-- The next request of a registrar. -/
def request (tree : Tree) (registrar : Registrar) : Option (Tree × Registrar) :=
  match registrar.failed, registrar.todo with
  | none, call :: rest =>
      let asked := { registrar with requests := registrar.requests + 1 }
      if registrar.absent then
        match zooCreate tree call.path (call.node registrar.registration.session) with
        | .ok next => some (next, { asked with todo := rest, absent := false })
        | .error _ => some (tree, { asked with failed := some (zkError "zoo_create failed") })
      else
        match zooExists tree call.path with
        | .ok () => some (tree, { asked with todo := rest })
        | .error .noNode => some (tree, { asked with absent := true })
        | .error _ => some (tree, { asked with failed := some (zkError "zoo_exists failed") })
  | _, _ => none

end Registrar

section Machine

variable {Id : Type} [DecidableEq Id]

/-- The tree and the registrars. -/
structure State (Id : Type) where
  /-- The tree of the server. -/
  tree : Tree
  /-- The registrars. -/
  registrars : Id → Registrar

/-- One request of one registrar. -/
def step (state : State Id) (id : Id) : Option (State Id) :=
  ((state.registrars id).request state.tree).map fun (tree, registrar) =>
    ⟨tree, Function.update state.registrars id registrar⟩

/-- All registrars before their first request. -/
def start (tree : Tree) (registrations : Id → Registration) : State Id :=
  ⟨tree, fun id => { registration := registrations id, todo := (registrations id).calls }⟩

/-- The states of all runs in which every step meets a condition on the state before it. -/
abbrev Run (allowed : State Id → Id → Prop) (tree : Tree) (registrations : Id → Registration) :
    State Id → Prop :=
  GuardedRun (fun state id next => step state id = some next) allowed (start tree registrations)

/-- If `zoo_create` is next, then nobody created the node since `zoo_exists`. -/
def Uncontested (state : State Id) (id : Id) : Prop :=
  (state.registrars id).absent = true → ∀ call ∈ (state.registrars id).todo.head?,
    cStr call.path ∉ state.tree

instance (state : State Id) (id : Id) : Decidable (Uncontested state id) :=
  inferInstanceAs (Decidable ((state.registrars id).absent = true →
    ∀ call ∈ (state.registrars id).todo.head?, cStr call.path ∉ state.tree))

end Machine

/-! ## A registrar that runs alone -/

/-- One request, with the tree that it changes. -/
def Asks (before behind : Tree × Registrar) : Prop :=
  before.2.request before.1 = some behind

/-- The requests of a registrar that runs alone end with what `CreateNode` returns call by call. -/
theorem requests_of_createNodes (tree : Tree) (registration : Registration)
    (calls : List CreateCall) (requests : Nat) :
    ∃ behind, Relation.ReflTransGen Asks
        (tree, ⟨registration, calls, false, none, requests⟩)
        ((createNodes tree registration.session calls).2, behind) ∧
      behind.returned = some (createNodes tree registration.session calls).1 := by
  induction calls generalizing tree requests with
  | nil => exact ⟨_, .refl, rfl⟩
  | cons call rest ih =>
      by_cases present : cStr call.path ∈ tree
      · -- `zoo_exists` finds the node.
        have created : createNode tree registration.session call = (.ok (), tree) :=
          createNode_eq_ok_iff.mpr (Or.inl ⟨present, rfl⟩)
        obtain ⟨behind, later, returned⟩ := ih tree (requests + 1)
        have asked : Asks (tree, ⟨registration, call :: rest, false, none, requests⟩)
            (tree, ⟨registration, rest, false, none, requests + 1⟩) := by
          simp [Asks, Registrar.request, zooExists, present]
        simp only [createNodes, created]
        exact ⟨behind, .head asked later, returned⟩
      · have asked : Asks (tree, ⟨registration, call :: rest, false, none, requests⟩)
            (tree, ⟨registration, call :: rest, true, none, requests + 1⟩) := by
          simp [Asks, Registrar.request, zooExists, present]
        by_cases parent : parentPath (cStr call.path) ∈ tree
        · have created : createNode tree registration.session call =
              (.ok (), tree.insert (cStr call.path) (call.node registration.session)) :=
            createNode_eq_ok_iff.mpr (Or.inr ⟨present, parent, rfl⟩)
          obtain ⟨behind, later, returned⟩ :=
            ih (tree.insert (cStr call.path) (call.node registration.session)) (requests + 2)
          have made : Asks (tree, ⟨registration, call :: rest, true, none, requests + 1⟩)
              (tree.insert (cStr call.path) (call.node registration.session),
                ⟨registration, rest, false, none, requests + 2⟩) := by
            simp [Asks, Registrar.request, zooCreate, present, parent]
          simp only [createNodes, created]
          exact ⟨behind, .head asked (.head made later), returned⟩
        · have created : createNode tree registration.session call =
              (.error (zkError "zoo_create failed"), tree) := by
            simp [createNode, zooExists, zooCreate, present, parent]
          have refused : Asks (tree, ⟨registration, call :: rest, true, none, requests + 1⟩)
              (tree, ⟨registration, call :: rest, true, some (zkError "zoo_create failed"),
                requests + 2⟩) := by
            simp [Asks, Registrar.request, zooCreate, parent]
          simp only [createNodes, created]
          exact ⟨_, .head asked (.single refused), rfl⟩

/-- `Register` is what the requests of its registrar do when it runs alone. -/
theorem requests_of_register (tree : Tree) (registration : Registration) :
    ∃ behind, Relation.ReflTransGen Asks
        (tree, { registration := registration, todo := registration.calls })
        ((register tree registration.session registration.serviceName registration.methodName
          registration.endpoint).2, behind) ∧
      behind.returned = some (register tree registration.session registration.serviceName
        registration.methodName registration.endpoint).1 := by
  rw [register_eq_createNodes]
  exact requests_of_createNodes tree registration registration.calls 0

/-! ## The calls of one registration -/

/-- Every call is for a known node or for a child of a known node; it is known from then on. -/
def Ordered (known : List Bytes) : List CreateCall → Prop
  | [] => True
  | call :: rest => (cStr call.path ∈ known ∨ parentPath (cStr call.path) ∈ known) ∧
      Ordered (cStr call.path :: known) rest

namespace Registration

variable {registration : Registration}

theorem slash_notMem_digits (n : Nat) : slash ∉ Decimal.digits n :=
  Decimal.notMem_digits (by decide)

/-- The name of the instance is the name of a node. -/
theorem Nameable.instance_name (nameable : registration.Nameable) :
    slash ∉ registration.endpoint.toString ∧ 0 ∉ registration.endpoint.toString := by
  have colon : text ":" = [58] := rfl
  have digits : (Nat.toDigits 10 registration.endpoint.port.toNat).map
      (fun digit => UInt8.ofNat digit.toNat) =
        Decimal.digits registration.endpoint.port.toNat := rfl
  rw [Endpoint.toString, colon, digits]
  simp only [List.mem_append, List.mem_singleton, not_or]
  exact ⟨⟨⟨nameable.host.1, by decide⟩, slash_notMem_digits _⟩,
    ⟨⟨nameable.host.2, by decide⟩, Decimal.notMem_digits (by decide)⟩⟩

theorem servicePath_eq (registration : Registration) :
    registration.servicePath = slash :: registration.serviceName := rfl

theorem methodPath_eq (registration : Registration) :
    registration.methodPath = registration.servicePath ++ slash :: registration.methodName :=
  buildMethodPath_eq _ _

theorem instancePath_eq (registration : Registration) :
    registration.instancePath =
      registration.methodPath ++ slash :: registration.endpoint.toString := by
  simp [methodPath, buildInstancePath, instancePath, text, slash]

/-- The paths are C strings. -/
theorem Nameable.cStr_servicePath (nameable : registration.Nameable) :
    cStr registration.servicePath = registration.servicePath := by
  apply cStr_eq_self
  simpa [servicePath_eq, slash] using nameable.service.2

theorem Nameable.cStr_methodPath (nameable : registration.Nameable) :
    cStr registration.methodPath = registration.methodPath := by
  apply cStr_eq_self
  simpa [methodPath_eq, servicePath_eq, slash] using
    ⟨nameable.service.2, nameable.method.2⟩

theorem Nameable.cStr_instancePath (nameable : registration.Nameable) :
    cStr registration.instancePath = registration.instancePath := by
  apply cStr_eq_self
  simpa [instancePath_eq, methodPath_eq, servicePath_eq, slash] using
    ⟨nameable.service.2, nameable.method.2, nameable.instance_name.2⟩

theorem Nameable.parentPath_servicePath (nameable : registration.Nameable) :
    parentPath registration.servicePath = root :=
  parentPath_cons nameable.service.1

theorem Nameable.parentPath_methodPath (nameable : registration.Nameable) :
    parentPath registration.methodPath = registration.servicePath := by
  rw [methodPath_eq]
  exact parentPath_append (by simp [servicePath_eq]) nameable.method.1

theorem Nameable.parentPath_instancePath (nameable : registration.Nameable) :
    parentPath registration.instancePath = registration.methodPath := by
  rw [instancePath_eq]
  exact parentPath_append (by simp [methodPath_eq]) nameable.instance_name.1

theorem Nameable.nodeName_instancePath (nameable : registration.Nameable) :
    nodeName registration.instancePath = registration.endpoint.toString := by
  rw [instancePath_eq]
  exact nodeName_append _ nameable.instance_name.1

/-- The levels of the tree are told apart by the number of separators. -/
theorem Nameable.count_servicePath (nameable : registration.Nameable) :
    registration.servicePath.count slash = 1 := by
  simp [servicePath_eq, List.count_eq_zero.mpr nameable.service.1]

theorem Nameable.count_methodPath (nameable : registration.Nameable) :
    registration.methodPath.count slash = 2 := by
  simp [methodPath_eq, nameable.count_servicePath, List.count_eq_zero.mpr nameable.method.1]

theorem Nameable.count_instancePath (nameable : registration.Nameable) :
    registration.instancePath.count slash = 3 := by
  simp [instancePath_eq, nameable.count_methodPath,
    List.count_eq_zero.mpr nameable.instance_name.1]

/-- A persistent node without data. -/
def directory (path : Bytes) : CreateCall := ⟨path, [], false⟩

/-- `EnsurePath` on the path of the service, which is the root for an empty name. -/
theorem Nameable.ensurePathCalls_servicePath (nameable : registration.Nameable) :
    ensurePathCalls registration.servicePath =
      if registration.serviceName = [] then [] else [directory registration.servicePath] := by
  rw [ensurePathCalls, nameable.cStr_servicePath, servicePath_eq]
  by_cases empty : registration.serviceName = []
  · simp [empty, root]
  · simp [empty, root, SlashPath.stems_of_notMem _ nameable.service.1, directory]

theorem Nameable.ensurePathCalls_methodPath (nameable : registration.Nameable) :
    ensurePathCalls registration.methodPath =
      [directory registration.servicePath, directory registration.methodPath] := by
  rw [ensurePathCalls, nameable.cStr_methodPath, methodPath_eq, servicePath_eq]
  have not_root : slash :: registration.serviceName ++ slash :: registration.methodName ≠ root := by
    simp [root]
  rw [if_neg not_root]
  simp [SlashPath.stems_append _ nameable.service.1,
    SlashPath.stems_of_notMem _ nameable.method.1, directory]

/-- All calls of a registration: the path of the service, which is ensured once more as a part of
the path of the method, then the path of the method itself and the instance. -/
theorem Nameable.calls_eq (nameable : registration.Nameable) :
    registration.calls =
      (if registration.serviceName = [] then [] else [directory registration.servicePath]) ++
        [directory registration.servicePath, directory registration.methodPath] ++
        [⟨registration.instancePath, registration.endpoint.toString, true⟩] := by
  rw [← nameable.ensurePathCalls_servicePath, ← nameable.ensurePathCalls_methodPath]
  rfl

theorem Nameable.length_calls_le (nameable : registration.Nameable) :
    registration.calls.length ≤ 4 := by
  rw [nameable.calls_eq]
  split <;> simp

theorem Nameable.mem_calls_iff (nameable : registration.Nameable) {call : CreateCall} :
    call ∈ registration.calls ↔ call = directory registration.servicePath ∨
      call = directory registration.methodPath ∨
      call = ⟨registration.instancePath, registration.endpoint.toString, true⟩ := by
  rw [nameable.calls_eq]
  split <;> simp

/-- Parents come before their children. -/
theorem Nameable.ordered_calls (nameable : registration.Nameable) :
    Ordered [root] registration.calls := by
  have service : ∀ known : List Bytes, root ∈ known →
      parentPath (cStr (directory registration.servicePath).path) ∈ known := by
    intro known member
    simpa [directory, nameable.cStr_servicePath, nameable.parentPath_servicePath] using member
  have behind : ∀ known : List Bytes, root ∈ known → Ordered known
      [directory registration.servicePath, directory registration.methodPath,
        ⟨registration.instancePath, registration.endpoint.toString, true⟩] := by
    intro known member
    refine ⟨Or.inr (service known member), ?_⟩
    simp [Ordered, directory, nameable.cStr_servicePath, nameable.cStr_methodPath,
      nameable.cStr_instancePath, nameable.parentPath_methodPath,
      nameable.parentPath_instancePath]
  rw [nameable.calls_eq]
  split
  · exact behind [root] (by simp)
  · exact ⟨Or.inr (service [root] (by simp)), behind _ (by simp)⟩

end Registration

/-! ## One request -/

/-- What holds of a registrar: the paths that it is done with exist, those that are left come in
order, and it made at most two requests for each call. -/
structure Sound (tree : Tree) (registrar : Registrar) : Prop where
  fine : registrar.failed = none
  left : registrar.todo <:+ registrar.registration.calls
  made : ∀ call ∈ registrar.registration.calls, call ∈ registrar.todo ∨ cStr call.path ∈ tree
  ordered : ∃ known, (∀ path ∈ known, path ∈ tree) ∧ Ordered known registrar.todo
  bounded : registrar.requests + 2 * registrar.todo.length ≤
    2 * registrar.registration.calls.length + registrar.absent.toNat
  returning : registrar.todo = [] → registrar.absent = false

/-- A tree that grows keeps the others sound. -/
theorem Sound.grow {tree next : Tree} {registrar : Registrar} (sound : Sound tree registrar)
    (grown : ∀ path ∈ tree, path ∈ next) : Sound next registrar where
  fine := sound.fine
  left := sound.left
  made := fun call member => (sound.made call member).imp_right (grown _)
  ordered := by
    obtain ⟨known, known_mem, ordered⟩ := sound.ordered
    exact ⟨known, fun path member => grown path (known_mem path member), ordered⟩
  bounded := sound.bounded
  returning := sound.returning

/-- The call under way returned: its node exists. -/
theorem Sound.advance {tree next : Tree} {registrar : Registrar} (sound : Sound tree registrar)
    {call : CreateCall} {rest : List CreateCall} (todo : registrar.todo = call :: rest)
    (grown : ∀ path ∈ tree, path ∈ next) (exists_now : cStr call.path ∈ next) :
    Sound next { registrar with
      todo := rest, absent := false, failed := none, requests := registrar.requests + 1 } where
  fine := rfl
  left := by
    have left := sound.left
    rw [todo] at left
    exact (List.suffix_cons call rest).trans left
  made := by
    intro other member
    rcases sound.made other member with pending | done
    · rw [todo] at pending
      rcases List.mem_cons.mp pending with rfl | pending
      · exact Or.inr exists_now
      · exact Or.inl pending
    · exact Or.inr (grown _ done)
  ordered := by
    obtain ⟨known, known_mem, ordered⟩ := sound.ordered
    rw [todo] at ordered
    refine ⟨cStr call.path :: known, ?_, ordered.2⟩
    intro path member
    rcases List.mem_cons.mp member with rfl | member
    · exact exists_now
    · exact grown path (known_mem path member)
  bounded := by
    have bounded := sound.bounded
    have le_one := registrar.absent.toNat_le
    rw [todo, List.length_cons] at bounded
    simp only [Bool.toNat_false]
    omega
  returning := fun _ => rfl

/-- What one request does when nobody gets in between: the tree stays, or the node of a call is
added below its parent. -/
theorem request_sound {tree : Tree} {registrar : Registrar} (sound : Sound tree registrar)
    (uncontested : registrar.absent = true → ∀ call ∈ registrar.todo.head?, cStr call.path ∉ tree)
    {next : Tree} {behind : Registrar}
    (asked : registrar.request tree = some (next, behind)) :
    Sound next behind ∧ behind.registration = registrar.registration ∧
      (next = tree ∨ ∃ call ∈ registrar.registration.calls, cStr call.path ∉ tree ∧
        parentPath (cStr call.path) ∈ tree ∧
        next = tree.insert (cStr call.path) (call.node registrar.registration.session)) := by
  cases todo : registrar.todo with
  | nil => simp [Registrar.request, sound.fine, todo] at asked
  | cons call rest =>
      have member : call ∈ registrar.registration.calls :=
        sound.left.subset (by simp [todo])
      cases absent : registrar.absent with
      | true =>
          have missing := uncontested absent call (by simp [todo])
          obtain ⟨known, known_mem, ordered⟩ := sound.ordered
          rw [todo] at ordered
          have parent : parentPath (cStr call.path) ∈ tree := by
            rcases ordered.1 with known_call | known_parent
            · exact absurd (known_mem _ known_call) missing
            · exact known_mem _ known_parent
          have created : zooCreate tree call.path (call.node registrar.registration.session) =
              .ok (tree.insert (cStr call.path) (call.node registrar.registration.session)) :=
            zooCreate_eq_ok_iff.mpr ⟨parent, missing, rfl⟩
          simp only [Registrar.request, sound.fine, todo, absent, created] at asked
          cases asked
          refine ⟨sound.advance todo ?_ ?_, rfl, Or.inr ⟨call, member, missing, parent, rfl⟩⟩
          · intro path before
            exact (AList.mem_insert tree).mpr (Or.inr before)
          · exact (AList.mem_insert tree).mpr (Or.inl rfl)
      | false =>
          by_cases present : cStr call.path ∈ tree
          · have found : zooExists tree call.path = .ok () := zooExists_eq_ok_iff.mpr present
            simp only [Registrar.request, sound.fine, todo, absent, found] at asked
            cases asked
            exact ⟨sound.advance todo (fun _ before => before) present, rfl, Or.inl rfl⟩
          · have missing : zooExists tree call.path = .error .noNode := by
              simp [zooExists, present]
            simp only [Registrar.request, sound.fine, todo, absent, missing] at asked
            cases asked
            refine ⟨?_, rfl, Or.inl rfl⟩
            have bounded := sound.bounded
            rw [absent, Bool.toNat_false] at bounded
            refine ⟨rfl, todo ▸ sound.left, todo ▸ sound.made, todo ▸ sound.ordered, ?_, ?_⟩
            · rw [todo] at bounded
              simp only [Bool.toNat_true]
              omega
            · intro nothing_left
              cases nothing_left

/-- A call for the path of an instance has the text of its endpoint as its data. -/
theorem Registration.Nameable.data_of_instancePath {registration other : Registration}
    (nameable : registration.Nameable) (other_nameable : other.Nameable) {call : CreateCall}
    (member : call ∈ registration.calls) (same : cStr call.path = other.instancePath)
    (session : Nat) : (call.node session).data = some other.endpoint.toString := by
  have count := congrArg (List.count slash) same
  rw [other_nameable.count_instancePath] at count
  rcases nameable.mem_calls_iff.mp member with rfl | rfl | rfl
  · rw [Registration.directory, nameable.cStr_servicePath, nameable.count_servicePath] at count
    cases count
  · rw [Registration.directory, nameable.cStr_methodPath, nameable.count_methodPath] at count
    cases count
  · rw [nameable.cStr_instancePath] at same
    rw [← other_nameable.nodeName_instancePath, ← same, nameable.nodeName_instancePath]
    simp only [CreateCall.node]
    rw [createdData_of_lt nameable.short]

/-! ## Whole runs -/

section Runs

variable {Id : Type} {registrations : Id → Registration}

/-- What holds in every state: the tree is prefix-closed, the registrars are sound and every node of
an instance holds its endpoint. -/
structure Holds (registrations : Id → Registration) (state : State Id) : Prop where
  closed : PrefixClosed state.tree
  same : ∀ id, (state.registrars id).registration = registrations id
  sound : ∀ id, Sound state.tree (state.registrars id)
  data : ∀ id node, state.tree.lookup (registrations id).instancePath = some node →
    node.data = some (registrations id).endpoint.toString

theorem holds_start {tree : Tree} (closed : PrefixClosed tree)
    (nameable : ∀ id, (registrations id).Nameable)
    (held : ∀ id node, tree.lookup (registrations id).instancePath = some node →
      node.data = some (registrations id).endpoint.toString) :
    Holds registrations (start tree registrations) where
  closed := closed
  same := fun _ => rfl
  sound := by
    intro id
    refine ⟨rfl, List.suffix_refl _, fun _ member => Or.inl member, ⟨[root], ?_, ?_⟩, ?_, ?_⟩
    · intro path member
      obtain rfl := List.mem_singleton.mp member
      exact closed.1
    · exact (nameable id).ordered_calls
    · simp [start]
    · exact fun _ => rfl
  data := held

variable [DecidableEq Id]

theorem holds_step {state next : State Id} {id : Id} (nameable : ∀ id, (registrations id).Nameable)
    (holds : Holds registrations state) (uncontested : Uncontested state id)
    (moved : step state id = some next) : Holds registrations next := by
  obtain ⟨⟨tree, behind⟩, asked, rfl⟩ := Option.map_eq_some_iff.mp moved
  obtain ⟨sound, registration, change⟩ := request_sound (holds.sound id) uncontested asked
  have grown : ∀ path ∈ state.tree, path ∈ tree := by
    intro path member
    rcases change with rfl | ⟨call, -, -, -, rfl⟩
    · exact member
    · exact (AList.mem_insert _).mpr (Or.inr member)
  refine ⟨?_, ?_, ?_, ?_⟩
  · rcases change with rfl | ⟨call, -, -, parent, rfl⟩
    · exact holds.closed
    · exact holds.closed.insert parent _
  · intro other
    by_cases eq : other = id
    · subst eq
      simpa using registration.trans (holds.same other)
    · simpa [eq] using holds.same other
  · intro other
    by_cases eq : other = id
    · subst eq
      simpa using sound
    · simpa [eq] using (holds.sound other).grow grown
  · intro other node found
    rcases change with rfl | ⟨call, member, -, -, rfl⟩
    · exact holds.data other node found
    · by_cases eq : (registrations other).instancePath = cStr call.path
      · rw [eq, AList.lookup_insert] at found
        obtain rfl := Option.some.inj found
        rw [holds.same id] at member
        exact (nameable id).data_of_instancePath (nameable other) member eq.symm _
      · rw [AList.lookup_insert_ne eq] at found
        exact holds.data other node found

theorem holds_of_run {tree : Tree} (closed : PrefixClosed tree)
    (nameable : ∀ id, (registrations id).Nameable)
    (held : ∀ id node, tree.lookup (registrations id).instancePath = some node →
      node.data = some (registrations id).endpoint.toString)
    {state : State Id} (run : Run Uncontested tree registrations state) :
    Holds registrations state := by
  apply run.invariant (Holds registrations) (holds_start closed nameable held)
  intro state next id holds permitted moved
  exact holds_step nameable holds permitted moved

/-- A registrar that has not returned has a next request. -/
theorem step_ne_none {state : State Id} {id : Id}
    (pending : (state.registrars id).returned = none) : step state id ≠ none := by
  rw [step, Ne, Option.map_eq_none_iff]
  simp only [Registrar.returned] at pending
  simp only [Registrar.request]
  split at pending
  · cases pending
  · cases pending
  · rename_i failed todo
    simp only [failed, todo]
    split
    · split <;> simp
    · split <;> simp

/-- In every run in which no node is created between the two requests of another `CreateNode`, every
`Register` returns success after at most eight requests, and then its paths exist with the endpoint
as the data of the instance; the tree is prefix-closed all the time. -/
theorem concurrent_registrations_succeed {tree : Tree} (closed : PrefixClosed tree)
    (nameable : ∀ id, (registrations id).Nameable)
    (held : ∀ id node, tree.lookup (registrations id).instancePath = some node →
      node.data = some (registrations id).endpoint.toString)
    {state : State Id} (run : Run Uncontested tree registrations state) :
    PrefixClosed state.tree ∧
      ∀ id, ((state.registrars id).returned = none ∧ (state.registrars id).requests < 8 ∧
          step state id ≠ none) ∨
        ((state.registrars id).returned = some (.ok ()) ∧
          (state.registrars id).requests ≤ 8 ∧
          zooExists state.tree (registrations id).servicePath = .ok () ∧
          zooExists state.tree (registrations id).methodPath = .ok () ∧
          ∃ node, state.tree.lookup (registrations id).instancePath = some node ∧
            node.data = some (registrations id).endpoint.toString) := by
  have holds := holds_of_run closed nameable held run
  refine ⟨holds.closed, ?_⟩
  intro id
  have sound := holds.sound id
  have few := (nameable id).length_calls_le
  have bounded := sound.bounded
  rw [holds.same id] at bounded
  have le_one := (state.registrars id).absent.toNat_le
  cases todo : (state.registrars id).todo with
  | cons call rest =>
      have pending : (state.registrars id).returned = none := by
        simp [Registrar.returned, sound.fine, todo]
      rw [todo, List.length_cons] at bounded
      exact Or.inl ⟨pending, by omega, step_ne_none pending⟩
  | nil =>
      have made : ∀ call ∈ (registrations id).calls, cStr call.path ∈ state.tree := by
        intro call member
        rw [← holds.same id] at member
        simpa [todo] using sound.made call member
      have instance_mem := made _ ((nameable id).mem_calls_iff.mpr (Or.inr (Or.inr rfl)))
      rw [(nameable id).cStr_instancePath] at instance_mem
      obtain ⟨node, found⟩ := Option.isSome_iff_exists.mp (AList.lookup_isSome.mpr instance_mem)
      rw [todo, List.length_nil, sound.returning todo, Bool.toNat_false] at bounded
      refine Or.inr ⟨by simp [Registrar.returned, sound.fine, todo], by omega, ?_, ?_, node, found,
        holds.data id node found⟩
      · exact zooExists_eq_ok_iff.mpr
          (made _ ((nameable id).mem_calls_iff.mpr (Or.inl rfl)))
      · exact zooExists_eq_ok_iff.mpr
          (made _ ((nameable id).mem_calls_iff.mpr (Or.inr (Or.inl rfl))))

end Runs

/-- Two servers that register their endpoints for one method. -/
def loginServers (second : Bool) : Registration :=
  ⟨cond second 2 1, text "User", text "Login", ⟨text "h", cond second 81 80⟩⟩

theorem nameable_loginServers (second : Bool) : (loginServers second).Nameable := by
  cases second <;> exact ⟨by decide, by decide, by decide, by decide⟩

/-- One request after another, as long as nobody contests them. -/
def takeTurns (state : State Bool) (turns : List Bool) : Option (State Bool) :=
  turns.foldlM (fun state id => if Uncontested state id then step state id else none) state

theorem run_of_takeTurns {tree : Tree} {registrations : Bool → Registration}
    {state next : State Bool} (run : Run Uncontested tree registrations state) {turns : List Bool}
    (taken : takeTurns state turns = some next) : Run Uncontested tree registrations next := by
  refine holds_of_foldlM (Run Uncontested tree registrations) run ?_ taken
  intro state next id before _ moved
  split_ifs at moved with uncontested
  exact .step id before uncontested moved

/-- The requests of both servers interleave; the second one finds the nodes of the first one, and
both look for their instances before either creates its own. -/
theorem concurrent_registrations_succeed_in_turn :
    ∃ state, Run Uncontested newTree loginServers state ∧
      ∀ id, (state.registrars id).returned = some (.ok ()) ∧
        ∃ node, state.tree.lookup (loginServers id).instancePath = some node ∧
          node.data = some (loginServers id).endpoint.toString := by
  have performed : (takeTurns (start newTree loginServers)
      [false, false, true, false, true, false, false, true, false, true, false, true]).map
        (fun state => [false, true].map fun id => (state.registrars id).returned) =
      some [some (.ok ()), some (.ok ())] := by decide +kernel
  simp only [Option.map_eq_some_iff, List.map_cons, List.map_nil, List.cons.injEq,
    and_true] at performed
  obtain ⟨state, taken, first, second⟩ := performed
  have run := run_of_takeTurns .initial taken
  have unheld : ∀ id node, newTree.lookup (loginServers id).instancePath = some node →
      node.data = some (loginServers id).endpoint.toString := by
    intro id node found
    have absent : newTree.lookup (loginServers id).instancePath = none := by
      cases id <;> rfl
    cases absent.symm.trans found
  obtain ⟨-, outcome⟩ := concurrent_registrations_succeed prefixClosed_newTree
    nameable_loginServers unheld run
  refine ⟨state, run, fun id => ?_⟩
  have returned : (state.registrars id).returned = some (.ok ()) := by
    cases id
    · exact first
    · exact second
  rcases outcome id with ⟨pending, -⟩ | ⟨-, -, -, -, node, found, data⟩
  · cases pending.symm.trans returned
  · exact ⟨returned, node, found, data⟩

/-- Both servers find that there is no node for the service; the second to create it fails. -/
theorem concurrent_registration_fails :
    ¬ ∀ (tree : Tree) (registrations : Bool → Registration) (state : State Bool),
      PrefixClosed tree → (∀ id, (registrations id).Nameable) →
      Run (fun _ _ => True) tree registrations state →
      ∀ id error, (state.registrars id).returned ≠ some (.error error) := by
  intro succeeds
  have first : Run (fun _ _ => True) newTree loginServers _ := .step false .initial trivial rfl
  have second := GuardedRun.step true first trivial rfl
  have third := GuardedRun.step false second trivial rfl
  have fourth := GuardedRun.step true third trivial rfl
  exact succeeds _ _ _ prefixClosed_newTree nameable_loginServers fourth true
    (zkError "zoo_create failed") rfl

end ZkRegistrar

end Hxrpc
