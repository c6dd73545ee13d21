import Hxrpc.Discovery.Coherence
import Hxrpc.Discovery.Publication
import Hxrpc.Discovery.Static

/-!
# Servers and clients over one tree

Any number of `Register` calls and any number of resolvers, with their requests in any order.  A
request may be answered, or its answer may be lost whether or not it was carried out.  Sessions end,
and ZooKeeper removes their nodes one by one.  What a resolver sees of such a run is a run of its
own refreshes, and every node of the tree was created by one of the registrations.
-/

namespace Hxrpc

open ZooKeeper ZkClient ZkResolver ZkRegistrar

namespace ZkRegistrar.Registrar

/-- The call whose node the next request of a registrar creates. -/
def creation (tree : Tree) (registrar : Registrar) : Option CreateCall :=
  match registrar.failed, registrar.todo with
  | none, call :: _ =>
      if registrar.absent = true ∧ parentPath (cStr call.path) ∈ tree ∧ cStr call.path ∉ tree then
        some call
      else none
  | _, _ => none

/-- The next request of a registrar ends with an error of the connection or of the session. -/
def lose (registrar : Registrar) : Option Registrar :=
  match registrar.failed, registrar.todo with
  | none, _ :: _ =>
      some { registrar with
        requests := registrar.requests + 1
        failed := some
          (zkError (if registrar.absent then "zoo_create failed" else "zoo_exists failed")) }
  | _, _ => none

variable {tree next : Tree} {registrar behind : Registrar} {call : CreateCall}

theorem todo_of_creation (creates : registrar.creation tree = some call) :
    ∃ rest, registrar.todo = call :: rest ∧ parentPath (cStr call.path) ∈ tree ∧
      cStr call.path ∉ tree := by
  simp only [creation] at creates
  split at creates
  · rename_i first rest failed todo
    obtain ⟨⟨absent, parent, missing⟩, same⟩ := Option.ite_none_right_eq_some.mp creates
    obtain rfl := Option.some.inj same
    exact ⟨rest, todo, parent, missing⟩
  · cases creates

/-- A request that creates no node leaves the tree as it is; the call under way stays, or its node
is there and it returns. -/
theorem request_of_no_creation (asked : registrar.request tree = some (next, behind))
    (creates : registrar.creation tree = none) :
    next = tree ∧ behind.registration = registrar.registration ∧
      (behind.todo = registrar.todo ∨
        ∃ call, registrar.todo = call :: behind.todo ∧ cStr call.path ∈ tree) := by
  simp only [request] at asked
  split at asked
  · rename_i call rest failed todo
    split at asked
    · rename_i absent
      cases created : zooCreate tree call.path (call.node registrar.registration.session) with
      | ok grown =>
          -- `zoo_create` succeeds only where `creation` names the call.
          obtain ⟨parent, missing, -⟩ := zooCreate_eq_ok_iff.mp created
          simp [creation, failed, todo, absent, parent, missing] at creates
      | error code =>
          simp only [created] at asked
          obtain ⟨rfl, rfl⟩ := Prod.mk.inj (Option.some.inj asked)
          exact ⟨rfl, rfl, Or.inl rfl⟩
    · split at asked
      · rename_i found
        obtain ⟨rfl, rfl⟩ := Prod.mk.inj (Option.some.inj asked)
        exact ⟨rfl, rfl, Or.inr ⟨call, todo, zooExists_eq_ok_iff.mp found⟩⟩
      · obtain ⟨rfl, rfl⟩ := Prod.mk.inj (Option.some.inj asked)
        exact ⟨rfl, rfl, Or.inl rfl⟩
      · obtain ⟨rfl, rfl⟩ := Prod.mk.inj (Option.some.inj asked)
        exact ⟨rfl, rfl, Or.inl rfl⟩
  · cases asked

/-- A request that creates the node of a call adds it to the tree, and the call returns. -/
theorem request_of_creation (asked : registrar.request tree = some (next, behind))
    (creates : registrar.creation tree = some call) :
    next = tree.insert (cStr call.path) (call.node registrar.registration.session) ∧
      behind.registration = registrar.registration ∧ registrar.todo = call :: behind.todo := by
  simp only [creation] at creates
  split at creates
  · rename_i first rest failed todo
    obtain ⟨⟨absent, parent, missing⟩, same⟩ := Option.ite_none_right_eq_some.mp creates
    obtain rfl := Option.some.inj same
    have created : zooCreate tree first.path (first.node registrar.registration.session) =
        .ok (tree.insert (cStr first.path) (first.node registrar.registration.session)) :=
      zooCreate_eq_ok_iff.mpr ⟨parent, missing, rfl⟩
    simp only [request, failed, todo, absent, created] at asked
    obtain ⟨rfl, rfl⟩ := Prod.mk.inj (Option.some.inj asked)
    exact ⟨rfl, rfl, todo⟩
  · cases creates

theorem lose_eq_some (lost : registrar.lose = some behind) :
    behind.registration = registrar.registration ∧ behind.todo = registrar.todo := by
  simp only [lose] at lost
  split at lost
  · obtain rfl := Option.some.inj lost
    exact ⟨rfl, rfl⟩
  · cases lost

end ZkRegistrar.Registrar

namespace Directory

variable {Id Client : Type}

/-- The tree with those who use it. -/
structure State (Id Client : Type) where
  /-- The tree of the server. -/
  tree : Tree
  /-- The `Register` calls. -/
  registrars : Id → Registrar
  /-- The resolvers; each of them sees the tree of the server. -/
  resolvers : Client → Refreshing.State
  /-- The sessions that ended. -/
  ended : List Nat := []
  /-- The `Register` calls that created the node of their instance; the last is first. -/
  created : List Id := []

/-- What happens next. -/
inductive Action (Id Client : Type) where
  /-- The next request of a `Register` call is answered. -/
  | request (id : Id)
  /-- The answer to the next request of a `Register` call is lost; the server may have carried the
  request out. -/
  | lose (id : Id) (applied : Bool)
  /-- A session ends. -/
  | endSession (session : Nat)
  /-- A node of a session that ended is removed. -/
  | remove (path : Bytes)
  /-- A step of a resolver. -/
  | resolver (client : Client) (action : Refreshing.Action)

/-- The session of a `Register` call. -/
def State.session (state : State Id Client) (id : Id) : Nat :=
  (state.registrars id).registration.session

/-- The node of a call is created, and the watches on its parent fire. -/
def State.write (state : State Id Client) (id : Id) (call : CreateCall) : State Id Client :=
  let tree := state.tree.insert (cStr call.path) (call.node (state.session id))
  { state with
    tree := tree
    resolvers := fun client =>
      { state.resolvers client with tree := tree }.fire (parentPath (cStr call.path))
    created := if call.ephemeral then id :: state.created else state.created }

/-- What the server does for the next request of a `Register` call. -/
def State.perform (state : State Id Client) (id : Id) : State Id Client :=
  match (state.registrars id).creation state.tree with
  | none => state
  | some call => state.write id call

/-- A node is removed, and the watches on it and on its parent fire. -/
def State.erase (state : State Id Client) (path : Bytes) : State Id Client :=
  let tree := state.tree.erase path
  { state with
    tree := tree
    resolvers := fun client =>
      ({ state.resolvers client with tree := tree }.fire (parentPath path)).fire path }

/-- The step of a resolver that stands for what others do to the tree. -/
def IsChange : Refreshing.Action → Bool
  | .create .. | .delete _ => true
  | _ => false

variable [DecidableEq Id] [DecidableEq Client]

/-- A `Register` call goes on. -/
def State.setRegistrar (state : State Id Client) (id : Id) (registrar : Registrar) :
    State Id Client :=
  { state with registrars := Function.update state.registrars id registrar }

/-- One step of the system. -/
def step (state : State Id Client) : Action Id Client → Option (State Id Client)
  | .request id =>
      if state.session id ∈ state.ended then none
      else
        ((state.registrars id).request state.tree).map fun (_, registrar) =>
          (state.perform id).setRegistrar id registrar
  | .lose id applied =>
      (state.registrars id).lose.map fun registrar =>
        (if applied = true ∧ state.session id ∉ state.ended then state.perform id
          else state).setRegistrar id registrar
  | .endSession session => some { state with ended := session :: state.ended }
  | .remove path =>
      match state.tree.lookup path with
      | some ⟨_, some session⟩ => if session ∈ state.ended then some (state.erase path) else none
      | _ => none
  | .resolver client action =>
      if IsChange action = true then none
      else
        (Refreshing.step (state.resolvers client) action).map fun resolver =>
          { state with resolvers := Function.update state.resolvers client resolver }

/-- The empty tree, before the first request of each call. -/
def start (registrations : Id → Registration) : State Id Client where
  tree := newTree
  registrars := fun id => { registration := registrations id, todo := (registrations id).calls }
  resolvers := fun _ => { tree := newTree }

/-- The steps of the resolvers meet a condition. -/
def Guarded (allowed : Client → Refreshing.State → Refreshing.Action → Prop)
    (state : State Id Client) : Action Id Client → Prop
  | .resolver client action => allowed client (state.resolvers client) action
  | _ => True

/-- The states of all runs in which the steps of the resolvers meet a condition. -/
abbrev Run (allowed : Client → Refreshing.State → Refreshing.Action → Prop)
    (registrations : Id → Registration) : State Id Client → Prop :=
  GuardedRun (fun state action next => step state action = some next) (Guarded allowed)
    (start registrations)

/-! ## What a step can do -/

/-- The steps, with what they require and what they leave behind. -/
inductive Stepped (state : State Id Client) : Action Id Client → State Id Client → Prop where
  | ask {action : Action Id Client} (id : Id) (behind : Registrar)
      (same : behind.registration = (state.registrars id).registration)
      (todo : behind.todo = (state.registrars id).todo ∨
        ∃ call, (state.registrars id).todo = call :: behind.todo ∧ cStr call.path ∈ state.tree) :
      Stepped state action (state.setRegistrar id behind)
  | write {action : Action Id Client} (id : Id) (call : CreateCall) (behind : Registrar)
      (same : behind.registration = (state.registrars id).registration)
      (todo : behind.todo = (state.registrars id).todo ∨
        (state.registrars id).todo = call :: behind.todo)
      (member : call ∈ (state.registrars id).todo) (alive : state.session id ∉ state.ended)
      (parent : parentPath (cStr call.path) ∈ state.tree) (missing : cStr call.path ∉ state.tree) :
      Stepped state action ((state.write id call).setRegistrar id behind)
  | endSession (session : Nat) :
      Stepped state (.endSession session) { state with ended := session :: state.ended }
  | remove (path : Bytes) (node : Node) (session : Nat) (found : state.tree.lookup path = some node)
      (owner : node.owner = some session) (past : session ∈ state.ended) :
      Stepped state (.remove path) (state.erase path)
  | resolver (client : Client) (action : Refreshing.Action) (behind : Refreshing.State)
      (moved : Refreshing.step (state.resolvers client) action = some behind)
      (own : IsChange action = false) :
      Stepped state (.resolver client action)
        { state with resolvers := Function.update state.resolvers client behind }

variable {state next : State Id Client} {action : Action Id Client}

/-- Every step is one of these. -/
theorem stepped_of_step (moved : step state action = some next) : Stepped state action next := by
  cases action with
  | request id =>
      obtain ⟨alive, moved⟩ := Option.ite_none_left_eq_some.mp moved
      obtain ⟨⟨tree, behind⟩, asked, rfl⟩ := Option.map_eq_some_iff.mp moved
      cases creates : (state.registrars id).creation state.tree with
      | none =>
          obtain ⟨-, same, todo⟩ := Registrar.request_of_no_creation asked creates
          simp only [State.perform, creates]
          exact .ask id behind same todo
      | some call =>
          obtain ⟨-, same, todo⟩ := Registrar.request_of_creation asked creates
          obtain ⟨rest, first, parent, missing⟩ := Registrar.todo_of_creation creates
          simp only [State.perform, creates]
          exact .write id call behind same (Or.inr todo) (first ▸ List.mem_cons_self) alive parent
            missing
  | lose id applied =>
      obtain ⟨behind, lost, rfl⟩ := Option.map_eq_some_iff.mp moved
      obtain ⟨same, todo⟩ := Registrar.lose_eq_some lost
      split
      · rename_i carried
        cases creates : (state.registrars id).creation state.tree with
        | none =>
            simp only [State.perform, creates]
            exact .ask id behind same (Or.inl todo)
        | some call =>
            obtain ⟨rest, first, parent, missing⟩ := Registrar.todo_of_creation creates
            simp only [State.perform, creates]
            exact .write id call behind same (Or.inl todo) (first ▸ List.mem_cons_self) carried.2
              parent missing
      · exact .ask id behind same (Or.inl todo)
  | endSession session =>
      obtain rfl := Option.some.inj moved
      exact .endSession session
  | remove path =>
      simp only [step] at moved
      split at moved
      · rename_i data session found
        obtain ⟨past, same⟩ := Option.ite_none_right_eq_some.mp moved
        obtain rfl := Option.some.inj same
        exact .remove path _ session found rfl past
      · cases moved
  | resolver client action =>
      obtain ⟨own, moved⟩ := Option.ite_none_left_eq_some.mp moved
      obtain ⟨behind, resolved, rfl⟩ := Option.map_eq_some_iff.mp moved
      exact .resolver client action behind resolved (Bool.eq_false_iff.mpr own)

/-! ## The nodes of the tree -/

/-- The last call of a registration, for the node of the instance. -/
def lastCall (registration : Registration) : CreateCall :=
  ⟨registration.instancePath, registration.endpoint.toString, true⟩

/-- The node of an instance. -/
def instanceNode (registration : Registration) : Node :=
  ⟨some registration.endpoint.toString, some registration.session⟩

/-- What a node of the tree is. -/
inductive Placed (registrations : Id → Registration) (created : List Id) (path : Bytes) :
    Node → Prop where
  | ofRoot (same : path = root) : Placed registrations created path ⟨some [], none⟩
  | ofDirectory (id : Id)
      (same : path = (registrations id).servicePath ∨ path = (registrations id).methodPath) :
      Placed registrations created path ⟨some [], none⟩
  | ofInstance (id : Id) (member : id ∈ created) (same : path = (registrations id).instancePath) :
      Placed registrations created path (instanceNode (registrations id))

/-- The node of a registration was created, by itself or by another one. -/
def Made (registrations : Id → Registration) (created : List Id) (id : Id) : Prop :=
  ∃ creator ∈ created, (registrations creator).instancePath = (registrations id).instancePath

/-- What holds in every state: each call is for its registration, everyone sees the tree, every node
was created by a registration, and a node stays as long as the session of its creator. -/
structure Holds (registrations : Id → Registration) (state : State Id Client) : Prop where
  same : ∀ id, (state.registrars id).registration = registrations id
  left : ∀ id, (state.registrars id).todo <:+ (registrations id).calls
  made : ∀ id, lastCall (registrations id) ∈ (state.registrars id).todo ∨
    Made registrations state.created id
  synced : ∀ client, (state.resolvers client).tree = state.tree
  placed : ∀ path node, state.tree.lookup path = some node →
    Placed registrations state.created path node
  kept : ∀ id ∈ state.created, (registrations id).session ∉ state.ended →
    state.tree.lookup (registrations id).instancePath = some (instanceNode (registrations id))

section Invariant

variable {registrations : Id → Registration}

omit [DecidableEq Id] [DecidableEq Client]

theorem Placed.mono {created later : List Id} {path : Bytes} {node : Node}
    (placed : Placed registrations created path node) (kept : ∀ id ∈ created, id ∈ later) :
    Placed registrations later path node := by
  cases placed with
  | ofRoot same => exact .ofRoot same
  | ofDirectory id same => exact .ofDirectory id same
  | ofInstance id member same => exact .ofInstance id (kept id member) same

theorem Made.mono {created later : List Id} {id : Id} (made : Made registrations created id)
    (kept : ∀ id ∈ created, id ∈ later) : Made registrations later id := by
  obtain ⟨creator, member, same⟩ := made
  exact ⟨creator, kept creator member, same⟩

/-- The paths of instances have three separators, all others fewer. -/
theorem Placed.count_le {created : List Id} {path : Bytes} {node : Node}
    (nameable : ∀ id, (registrations id).Nameable)
    (placed : Placed registrations created path node) : path.count slash ≤ 3 := by
  cases placed with
  | ofRoot same =>
      have one : path.count slash = 1 := same ▸ rfl
      omega
  | ofDirectory id same =>
      have one := (nameable id).count_servicePath
      have two := (nameable id).count_methodPath
      rcases same with rfl | rfl <;> omega
  | ofInstance id member same => exact same ▸ Nat.le_of_eq (nameable id).count_instancePath

theorem Placed.of_count {created : List Id} {path : Bytes} {node : Node}
    (nameable : ∀ id, (registrations id).Nameable)
    (placed : Placed registrations created path node) (deep : 2 < path.count slash) :
    ∃ id ∈ created, path = (registrations id).instancePath ∧
      node = instanceNode (registrations id) := by
  cases placed with
  | ofRoot same =>
      have one : path.count slash = 1 := same ▸ rfl
      omega
  | ofDirectory id same =>
      have one := (nameable id).count_servicePath
      have two := (nameable id).count_methodPath
      rcases same with rfl | rfl <;> omega
  | ofInstance id member same => exact ⟨id, member, same, rfl⟩

/-- A node in the place of an instance was created by a registration of this instance. -/
theorem Holds.made_of_mem (holds : Holds registrations state)
    (nameable : ∀ id, (registrations id).Nameable) {id : Id}
    (present : (registrations id).instancePath ∈ state.tree) :
    Made registrations state.created id := by
  obtain ⟨node, found⟩ := Option.isSome_iff_exists.mp (AList.lookup_isSome.mpr present)
  have deep : 2 < (registrations id).instancePath.count slash := by
    rw [(nameable id).count_instancePath]
    exact Nat.lt_succ_self 2
  obtain ⟨creator, member, same, -⟩ := (holds.placed _ node found).of_count nameable deep
  exact ⟨creator, member, same.symm⟩

/-- The data of every call fits into a node. -/
theorem createdData_of_mem {registration : Registration} (nameable : registration.Nameable)
    {call : CreateCall} (member : call ∈ registration.calls) :
    createdData call.data = some call.data := by
  have empty : ([] : Bytes).length < 2 ^ 31 := Nat.two_pow_pos 31
  rcases nameable.mem_calls_iff.mp member with rfl | rfl | rfl
  · exact createdData_of_lt empty
  · exact createdData_of_lt empty
  · exact createdData_of_lt nameable.short

/-- The node that a call of a registration creates. -/
theorem placed_call {id : Id} (nameable : (registrations id).Nameable) {call : CreateCall}
    (member : call ∈ (registrations id).calls) {created : List Id}
    (listed : call.ephemeral = true → id ∈ created) :
    Placed registrations created (cStr call.path) (call.node (registrations id).session) := by
  have data := createdData_of_mem nameable member
  rcases nameable.mem_calls_iff.mp member with rfl | rfl | rfl
  · rw [CreateCall.node, data]
    exact .ofDirectory id (Or.inl nameable.cStr_servicePath)
  · rw [CreateCall.node, data]
    exact .ofDirectory id (Or.inr nameable.cStr_methodPath)
  · rw [CreateCall.node, data]
    exact .ofInstance id (listed rfl) nameable.cStr_instancePath

/-- Only the last call of a registration asks for an ephemeral node. -/
theorem eq_lastCall {id : Id} (nameable : (registrations id).Nameable) {call : CreateCall}
    (member : call ∈ (registrations id).calls) (ephemeral : call.ephemeral = true) :
    call = lastCall (registrations id) := by
  rcases nameable.mem_calls_iff.mp member with rfl | rfl | same
  · cases ephemeral
  · cases ephemeral
  · exact same

theorem holds_start (nameable : ∀ id, (registrations id).Nameable) :
    Holds registrations (start registrations : State Id Client) where
  same := fun _ => rfl
  left := fun _ => List.suffix_refl _
  made := fun id => Or.inl ((nameable id).mem_calls_iff.mpr (Or.inr (Or.inr rfl)))
  synced := fun _ => rfl
  placed := by
    intro path node found
    have member : path ∈ newTree := AList.lookup_isSome.mp (Option.isSome_of_mem found)
    obtain rfl := mem_newTree_iff.mp member
    have root_node : newTree.lookup root = some ⟨some [], none⟩ := rfl
    obtain rfl := Option.some.inj (root_node.symm.trans found)
    exact .ofRoot rfl
  kept := fun id member => by cases member

theorem mem_created_write (id : Id) (call : CreateCall) {other : Id}
    (before : other ∈ state.created) : other ∈ (state.write id call).created := by
  simp only [State.write]
  split
  · exact List.mem_cons_of_mem id before
  · exact before

/-- A call creates its node. -/
theorem Holds.write (holds : Holds registrations state)
    (nameable : ∀ id, (registrations id).Nameable) {id : Id} {call : CreateCall}
    (member : call ∈ (registrations id).calls) (missing : cStr call.path ∉ state.tree) :
    Holds registrations (state.write id call) := by
  have grown : ∀ other ∈ state.created, other ∈ (state.write id call).created :=
    fun _ => mem_created_write id call
  have session : state.session id = (registrations id).session := by
    rw [State.session, holds.same]
  refine ⟨holds.same, holds.left, ?_, ?_, ?_, ?_⟩
  · exact fun other => (holds.made other).imp_right fun made => made.mono grown
  · exact fun client => rfl
  · intro path node found
    simp only [State.write] at found
    by_cases eq : path = cStr call.path
    · subst eq
      rw [AList.lookup_insert] at found
      obtain rfl := Option.some.inj found
      rw [session]
      refine placed_call (nameable id) member ?_
      intro ephemeral
      simp [State.write, ephemeral]
    · rw [AList.lookup_insert_ne eq] at found
      exact (holds.placed path node found).mono grown
  · intro other listed alive
    have earlier : other ∈ state.created →
        (state.write id call).tree.lookup (registrations other).instancePath =
          some (instanceNode (registrations other)) := by
      intro before
      have found := holds.kept other before alive
      have ne : (registrations other).instancePath ≠ cStr call.path := by
        intro eq
        exact missing (eq ▸ AList.lookup_isSome.mp (Option.isSome_of_mem found))
      exact (AList.lookup_insert_ne ne).trans found
    simp only [State.write] at listed
    split at listed
    · rename_i ephemeral
      rcases List.mem_cons.mp listed with rfl | before
      · obtain rfl := eq_lastCall (nameable other) member ephemeral
        have node_eq : (lastCall (registrations other)).node (registrations other).session =
            instanceNode (registrations other) := by
          simp [lastCall, CreateCall.node, instanceNode, createdData_of_lt (nameable other).short]
        simp only [State.write, session, node_eq]
        simp only [lastCall, (nameable other).cStr_instancePath, AList.lookup_insert]
      · exact earlier before
    · exact earlier listed

/-- A node whose session ended is removed. -/
theorem holds_erase (holds : Holds registrations state) {path : Bytes} {node : Node} {session : Nat}
    (found : state.tree.lookup path = some node) (owner : node.owner = some session)
    (past : session ∈ state.ended) : Holds registrations (state.erase path) where
  same := holds.same
  left := holds.left
  made := holds.made
  synced := fun client => rfl
  placed := by
    intro other otherNode otherFound
    simp only [State.erase] at otherFound
    have ne : other ≠ path := by
      rintro rfl
      rw [AList.lookup_erase] at otherFound
      cases otherFound
    rw [AList.lookup_erase_ne ne] at otherFound
    exact holds.placed other otherNode otherFound
  kept := by
    intro id member alive
    have kept := holds.kept id member alive
    have ne : (registrations id).instancePath ≠ path := by
      rintro rfl
      obtain rfl := Option.some.inj (kept.symm.trans found)
      obtain rfl := Option.some.inj owner
      exact alive past
    exact (AList.lookup_erase_ne ne).trans kept

/-- A resolver does not change the tree by itself. -/
theorem tree_of_own {resolver behind : Refreshing.State} {action : Refreshing.Action}
    (moved : Refreshing.step resolver action = some behind) (own : IsChange action = false) :
    behind.tree = resolver.tree := by
  cases Refreshing.stepped_of_step moved with
  | create path data owner absent => cases own
  | delete path present => cases own
  | _ => rfl

end Invariant

section Steps

variable {registrations : Id → Registration}

omit [DecidableEq Client] in
/-- The calls of others are as they were. -/
theorem Holds.setRegistrar (holds : Holds registrations state) {id : Id} {behind : Registrar}
    (same : behind.registration = registrations id)
    (left : behind.todo <:+ (registrations id).calls)
    (made : lastCall (registrations id) ∈ behind.todo ∨ Made registrations state.created id) :
    Holds registrations (state.setRegistrar id behind) where
  same := by
    intro other
    by_cases eq : other = id
    · subst eq
      simpa [State.setRegistrar] using same
    · simpa [State.setRegistrar, eq] using holds.same other
  left := by
    intro other
    by_cases eq : other = id
    · subst eq
      simpa [State.setRegistrar] using left
    · simpa [State.setRegistrar, eq] using holds.left other
  made := by
    intro other
    by_cases eq : other = id
    · subst eq
      simpa [State.setRegistrar] using made
    · simpa [State.setRegistrar, eq] using holds.made other
  synced := holds.synced
  placed := holds.placed
  kept := holds.kept

omit [DecidableEq Client] in
/-- A call goes on without creating a node. -/
theorem holds_ask (holds : Holds registrations state) (nameable : ∀ id, (registrations id).Nameable)
    {id : Id} {behind : Registrar}
    (same : behind.registration = (state.registrars id).registration)
    (todo : behind.todo = (state.registrars id).todo ∨
      ∃ call, (state.registrars id).todo = call :: behind.todo ∧ cStr call.path ∈ state.tree) :
    Holds registrations (state.setRegistrar id behind) := by
  have registration := same.trans (holds.same id)
  rcases todo with unchanged | ⟨call, first, present⟩
  · exact holds.setRegistrar registration (unchanged ▸ holds.left id) (unchanged ▸ holds.made id)
  · have left := holds.left id
    have made := holds.made id
    rw [first] at left made
    refine holds.setRegistrar registration ((List.suffix_cons _ _).trans left) ?_
    rcases made with pending | made
    · rcases List.mem_cons.mp pending with rfl | pending
      · rw [lastCall, (nameable id).cStr_instancePath] at present
        exact Or.inr (holds.made_of_mem nameable present)
      · exact Or.inl pending
    · exact Or.inr made

omit [DecidableEq Client] in
theorem holds_write (holds : Holds registrations state)
    (nameable : ∀ id, (registrations id).Nameable) {id : Id} {call : CreateCall}
    {behind : Registrar} (same : behind.registration = (state.registrars id).registration)
    (todo : behind.todo = (state.registrars id).todo ∨
      (state.registrars id).todo = call :: behind.todo)
    (member : call ∈ (state.registrars id).todo) (missing : cStr call.path ∉ state.tree) :
    Holds registrations ((state.write id call).setRegistrar id behind) := by
  have written := holds.write nameable ((holds.left id).subset member) missing
  refine holds_ask written nameable same (todo.imp_right fun first => ⟨call, first, ?_⟩)
  exact (AList.mem_insert _).mpr (Or.inl rfl)

theorem holds_step (holds : Holds registrations state)
    (nameable : ∀ id, (registrations id).Nameable) (stepped : Stepped state action next) :
    Holds registrations next := by
  cases stepped with
  | ask id behind same todo => exact holds_ask holds nameable same todo
  | write id call behind same todo member alive parent missing =>
      exact holds_write holds nameable same todo member missing
  | endSession session =>
      refine ⟨holds.same, holds.left, holds.made, holds.synced, holds.placed, ?_⟩
      exact fun id member alive =>
        holds.kept id member fun before => alive (List.mem_cons_of_mem session before)
  | remove path node session found owner past => exact holds_erase holds found owner past
  | resolver client move behind moved own =>
      refine ⟨holds.same, holds.left, holds.made, ?_, holds.placed, holds.kept⟩
      intro other
      by_cases eq : other = client
      · subst eq
        simpa using (tree_of_own moved own).trans (holds.synced other)
      · simpa [eq] using holds.synced other

variable {allowed : Client → Refreshing.State → Refreshing.Action → Prop}

theorem holds_of_run (nameable : ∀ id, (registrations id).Nameable)
    (run : Run allowed registrations state) : Holds registrations state := by
  apply run.invariant (Holds registrations) (holds_start nameable)
  intro state next action holds permitted moved
  exact holds_step holds nameable (stepped_of_step moved)

/-- A run goes on. -/
theorem Run.go (action : Action Id Client) (run : Run allowed registrations state)
    (permitted : Guarded allowed state action) (moved : step state action = some next) :
    Run allowed registrations next :=
  GuardedRun.step action run permitted moved

end Steps

end Directory

end Hxrpc
