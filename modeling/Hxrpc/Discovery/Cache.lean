import Hxrpc.Discovery.Resolver
import Hxrpc.Lib.GuardedRun

/-!
# The instance cache under concurrent refreshes

Any number of `RefreshMethod` calls, begun by `Resolve` or by the watcher, step by step: read the
children and arm a watch, read the data of each child, store the entry.  Meanwhile other clients
create and delete nodes.  A watch fires once, at the first change below its path or of the path
itself; its notification is delivered some time later and begins another refresh.  When the session
of the resolver ends, its watches are gone without a notification, because `ChildWatcher` ignores
events of the session, and no later request succeeds.
-/

namespace Hxrpc

open ZooKeeper

namespace ZkResolver

namespace Refreshing

/-- How far a refresh came. -/
inductive Stage where
  /-- `GetChildrenWatched` is next. -/
  | started
  /-- The children were read as the read of this number; some of them are left, and the instances of
  the others are collected.  The entry is stored when none is left. -/
  | reading (number : Nat) (children : List Bytes) (instances : List ServiceInstance)

/-- A `RefreshMethod` in progress. -/
structure Refresh where
  /-- `method_path`. -/
  path : Bytes
  /-- How far it came. -/
  stage : Stage

/-- The tree, the cache, the refreshes in progress and the watches. -/
structure State where
  /-- The tree of the server. -/
  tree : Tree
  /-- `method_instances`. -/
  cache : Cache := fun _ => none
  /-- The refreshes in progress. -/
  refreshes : Nat → Option Refresh := fun _ => none
  /-- How many refreshes were begun. -/
  begun : Nat := 0
  /-- The paths of the watches that did not fire yet. -/
  armed : List Bytes := []
  /-- The paths of the notifications that are not delivered yet. -/
  pending : List Bytes := []
  /-- How many times children were read. -/
  reads : Nat := 0
  /-- The last read of the children of a path. -/
  lastRead : Bytes → Option Nat := fun _ => none
  /-- The read behind the cached entry of a path. -/
  storedRead : Bytes → Option Nat := fun _ => none
  /-- The paths that were resolved. -/
  resolved : Bytes → Bool := fun _ => false
  /-- The session of the resolver ended. -/
  expired : Bool := false

/-- What happens next. -/
inductive Action where
  /-- A client creates a node. -/
  | create (path : Bytes) (data : Bytes) (owner : Option Nat)
  /-- A node is deleted, by a client or with its session. -/
  | delete (path : Bytes)
  /-- `Resolve` is called. -/
  | resolve (serviceName methodName : Bytes)
  /-- A notification is delivered: `OnMethodChanged`. -/
  | deliver (path : Bytes)
  /-- `zoo_wget_children` returns the children in some order and arms a watch. -/
  | readChildren (id : Nat) (children : List Bytes)
  /-- `zoo_wget_children` fails and arms no watch. -/
  | failChildren (id : Nat)
  /-- `GetData` on the next child: its data, or no node. -/
  | readData (id : Nat)
  /-- `GetData` on the next child fails. -/
  | failData (id : Nat)
  /-- `GetData` on the next child throws, and so does the refresh. -/
  | throwData (id : Nat)
  /-- The entry is stored. -/
  | store (id : Nat)
  /-- The session of the resolver ends; of the notifications on their way these are delivered. -/
  | endSession (kept : List Bytes)

namespace State

/-- The watches of a path fire. -/
def fire (state : State) (path : Bytes) : State :=
  { state with
    armed := state.armed.filter (· ≠ path)
    pending := state.pending ++ state.armed.filter (· = path) }

/-- A refresh begins. -/
def begin (state : State) (path : Bytes) : State :=
  { state with
    refreshes := Function.update state.refreshes state.begun (some ⟨path, .started⟩)
    begun := state.begun + 1 }

/-- A refresh goes on. -/
def setStage (state : State) (id : Nat) (path : Bytes) (stage : Stage) : State :=
  { state with refreshes := Function.update state.refreshes id (some ⟨path, stage⟩) }

/-- A refresh returns. -/
def finish (state : State) (id : Nat) : State :=
  { state with refreshes := Function.update state.refreshes id none }

/-- A refresh has read the children of its path, and a watch is armed. -/
def arm (state : State) (id : Nat) (path : Bytes) (children : List Bytes) : State :=
  { state.setStage id path (.reading state.reads children []) with
    armed := cStr path :: state.armed
    reads := state.reads + 1
    lastRead := Function.update state.lastRead path (some state.reads) }

/-- A refresh stores its entry and returns. -/
def save (state : State) (id : Nat) (path : Bytes) (number : Nat)
    (instances : List ServiceInstance) : State :=
  { state.finish id with
    cache := Function.update state.cache path (some instances)
    storedRead := Function.update state.storedRead path (some number) }

end State

/-- One step of the machine. -/
def step (state : State) : Action → Option State
  | .create path data owner =>
      match zooCreate state.tree path ⟨some data, owner⟩ with
      | .error _ => none
      | .ok tree => some ({ state with tree := tree }.fire (parentPath (cStr path)))
  | .delete path =>
      if path ∉ state.tree ∨ path = root ∨ childNames state.tree path ≠ [] then none
      else
        some (({ state with tree := state.tree.erase path }.fire (parentPath path)).fire path)
  | .resolve serviceName methodName =>
      let path := buildMethodPath serviceName methodName
      let called := { state with resolved := Function.update state.resolved path true }
      if state.cache path ≠ none then some called else some (called.begin path)
  | .deliver path =>
      if path ∉ state.pending then none
      else
        let handled := { state with pending := state.pending.erase path }
        match splitMethodPath path with
        | none => some handled
        | some (serviceName, methodName) =>
            some (handled.begin (buildMethodPath serviceName methodName))
  | .readChildren id children =>
      match state.refreshes id with
      | some ⟨path, .started⟩ =>
          match zooGetChildren state.tree path with
          | .error _ => none
          | .ok names =>
              if state.expired = false ∧ children.Perm names then
                some (state.arm id path children)
              else none
      | _ => none
  | .failChildren id =>
      match state.refreshes id with
      | some ⟨_, .started⟩ => some (state.finish id)
      | _ => none
  | .readData id =>
      match state.refreshes id with
      | some ⟨path, .reading number (child :: children) instances⟩ =>
          if state.expired then none
          else
            (readInstance state.tree path child).map fun found =>
              state.setStage id path (.reading number children (instances ++ found.toList))
      | _ => none
  | .failData id =>
      match state.refreshes id with
      | some ⟨path, .reading number (_ :: children) instances⟩ =>
          some (state.setStage id path (.reading number children instances))
      | _ => none
  | .throwData id =>
      match state.refreshes id with
      | some ⟨path, .reading _ (child :: _) _⟩ =>
          if state.expired = false ∧ readInstance state.tree path child = none then
            some (state.finish id)
          else none
      | _ => none
  | .store id =>
      match state.refreshes id with
      | some ⟨path, .reading number [] instances⟩ => some (state.save id path number instances)
      | _ => none
  | .endSession kept =>
      if kept.Sublist state.pending then
        some { state with armed := [], pending := kept, expired := true }
      else none

/-- The states of all runs on a tree in which every step meets a condition on the state
before it. -/
abbrev Run (allowed : State → Action → Prop) (tree : Tree) : State → Prop :=
  GuardedRun (fun state action next => step state action = some next) allowed { tree := tree }

/-- No refresh is in progress. -/
def State.Idle (state : State) : Prop := ∀ id, state.refreshes id = none

/-- A path that the C library sees as it is. -/
def IsMethodPath (path : Bytes) : Prop :=
  ∃ serviceName methodName, path = buildMethodPath serviceName methodName ∧ 0 ∉ path

/-- The names that are resolved hold no NUL. -/
def Named : Action → Prop
  | .resolve serviceName methodName => 0 ∉ buildMethodPath serviceName methodName
  | _ => True

end Refreshing

/-! ## Paths of methods -/

/-- `OnMethodChanged` puts the path together again, wherever the separators of the names are. -/
theorem splitMethodPath_spec (serviceName methodName : Bytes) :
    ∃ service method, splitMethodPath (buildMethodPath serviceName methodName) =
        some (service, method) ∧
      buildMethodPath service method = buildMethodPath serviceName methodName := by
  have path_eq : buildMethodPath serviceName methodName =
      slash :: (serviceName ++ slash :: methodName) := by simp [buildMethodPath_eq]
  rw [path_eq]
  cases found : SlashPath.lastIndex slash (slash :: (serviceName ++ slash :: methodName)) with
  | none => simp [SlashPath.lastIndex_eq_none_iff] at found
  | some index =>
      obtain ⟨split_eq, absent⟩ := SlashPath.eq_append_of_lastIndex found
      cases index with
      | zero => simp at absent
      | succ index =>
          refine ⟨(serviceName ++ slash :: methodName).take index,
            (serviceName ++ slash :: methodName).drop (index + 1), ?_, ?_⟩
          · simp only [splitMethodPath, found, List.drop_succ_cons, List.drop_zero]
          · rw [buildMethodPath_eq, ← List.take_succ_cons, ← List.drop_succ_cons]
            exact split_eq.symm

namespace Refreshing

theorem IsMethodPath.ne_nil {path : Bytes} (method : IsMethodPath path) : path ≠ [] := by
  obtain ⟨serviceName, methodName, rfl, -⟩ := method
  simp [buildMethodPath_eq]

theorem IsMethodPath.ne_root {path : Bytes} (method : IsMethodPath path) : path ≠ root := by
  obtain ⟨serviceName, methodName, rfl, -⟩ := method
  simp [buildMethodPath_eq, root]

theorem IsMethodPath.cStr_eq {path : Bytes} (method : IsMethodPath path) : cStr path = path := by
  obtain ⟨_, _, -, absent⟩ := method
  exact cStr_eq_self absent

/-- `OnMethodChanged` refreshes the path that it is called for. -/
theorem IsMethodPath.split {path : Bytes} (method : IsMethodPath path) :
    ∃ serviceName methodName, splitMethodPath path = some (serviceName, methodName) ∧
      buildMethodPath serviceName methodName = path := by
  obtain ⟨serviceName, methodName, rfl, -⟩ := method
  exact splitMethodPath_spec serviceName methodName

end Refreshing

end ZkResolver

end Hxrpc
