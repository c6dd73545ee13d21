import Hxrpc.Discovery.Cache

/-!
# Cached paths are watched

What a step of the refreshes can do is said once.  From it: as long as no failed read of children
leaves a cached path behind that nothing watches, a change below a cached path is always noticed.
-/

namespace Hxrpc

open ZooKeeper

namespace ZkResolver

namespace Refreshing

/-! ## What a step can do -/

/-- The steps, with what they require and what they leave behind. -/
inductive Stepped (state : State) : Action → State → Prop where
  | create (path data : Bytes) (owner : Option Nat) (absent : cStr path ∉ state.tree) :
      Stepped state (.create path data owner)
        ({ state with tree := state.tree.insert (cStr path) ⟨some data, owner⟩ }.fire
          (parentPath (cStr path)))
  | delete (path : Bytes) (present : path ∈ state.tree) :
      Stepped state (.delete path)
        (({ state with tree := state.tree.erase path }.fire (parentPath path)).fire path)
  | hit (serviceName methodName : Bytes)
      (cached : state.cache (buildMethodPath serviceName methodName) ≠ none) :
      Stepped state (.resolve serviceName methodName)
        { state with
          resolved := Function.update state.resolved (buildMethodPath serviceName methodName) true }
  | miss (serviceName methodName : Bytes) :
      Stepped state (.resolve serviceName methodName)
        ({ state with
          resolved := Function.update state.resolved
            (buildMethodPath serviceName methodName) true }.begin
              (buildMethodPath serviceName methodName))
  | ignore (path : Bytes) (member : path ∈ state.pending) (unsplit : splitMethodPath path = none) :
      Stepped state (.deliver path) { state with pending := state.pending.erase path }
  | deliver (path serviceName methodName : Bytes) (member : path ∈ state.pending)
      (split : splitMethodPath path = some (serviceName, methodName)) :
      Stepped state (.deliver path)
        ({ state with pending := state.pending.erase path }.begin
          (buildMethodPath serviceName methodName))
  | readChildren (id : Nat) (path : Bytes) (children : List Bytes)
      (current : state.refreshes id = some ⟨path, .started⟩) (alive : state.expired = false)
      (present : cStr path ∈ state.tree)
      (perm : children.Perm (childNames state.tree (cStr path))) :
      Stepped state (.readChildren id children) (state.arm id path children)
  | failChildren (id : Nat) (path : Bytes)
      (current : state.refreshes id = some ⟨path, .started⟩) :
      Stepped state (.failChildren id) (state.finish id)
  | readData (id : Nat) (path : Bytes) (number : Nat) (child : Bytes) (children : List Bytes)
      (instances : List ServiceInstance) (found : Option ServiceInstance)
      (current : state.refreshes id = some ⟨path, .reading number (child :: children) instances⟩)
      (alive : state.expired = false) (read : readInstance state.tree path child = some found) :
      Stepped state (.readData id)
        (state.setStage id path (.reading number children (instances ++ found.toList)))
  | failData (id : Nat) (path : Bytes) (number : Nat) (child : Bytes) (children : List Bytes)
      (instances : List ServiceInstance)
      (current : state.refreshes id = some ⟨path, .reading number (child :: children) instances⟩) :
      Stepped state (.failData id) (state.setStage id path (.reading number children instances))
  | throwData (id : Nat) (path : Bytes) (number : Nat) (child : Bytes) (children : List Bytes)
      (instances : List ServiceInstance)
      (current : state.refreshes id = some ⟨path, .reading number (child :: children) instances⟩)
      (alive : state.expired = false) (thrown : readInstance state.tree path child = none) :
      Stepped state (.throwData id) (state.finish id)
  | store (id : Nat) (path : Bytes) (number : Nat) (instances : List ServiceInstance)
      (current : state.refreshes id = some ⟨path, .reading number [] instances⟩) :
      Stepped state (.store id) (state.save id path number instances)
  | endSession (kept : List Bytes) (some_of : kept.Sublist state.pending) :
      Stepped state (.endSession kept)
        { state with armed := [], pending := kept, expired := true }

/-- Every step is one of these. -/
theorem stepped_of_step {state next : State} {action : Action}
    (moved : step state action = some next) : Stepped state action next := by
  cases action with
  | create path data owner =>
      simp only [step] at moved
      split at moved
      · cases moved
      · rename_i tree created
        obtain ⟨-, absent, rfl⟩ := zooCreate_eq_ok_iff.mp created
        obtain rfl := Option.some.inj moved
        exact .create path data owner absent
  | delete path =>
      simp only [step] at moved
      split at moved
      · cases moved
      · rename_i deletable
        obtain rfl := Option.some.inj moved
        exact .delete path (not_not.mp fun absent => deletable (Or.inl absent))
  | resolve serviceName methodName =>
      simp only [step] at moved
      split at moved
      · rename_i cached
        obtain rfl := Option.some.inj moved
        exact .hit serviceName methodName cached
      · obtain rfl := Option.some.inj moved
        exact .miss serviceName methodName
  | deliver path =>
      simp only [step] at moved
      split at moved
      · cases moved
      · rename_i member
        split at moved
        · rename_i unsplit
          obtain rfl := Option.some.inj moved
          exact .ignore path (not_not.mp member) unsplit
        · rename_i serviceName methodName split
          obtain rfl := Option.some.inj moved
          exact .deliver path serviceName methodName (not_not.mp member) split
  | readChildren id children =>
      simp only [step] at moved
      split at moved
      · rename_i path current
        split at moved
        · cases moved
        · rename_i names listed
          split at moved
          · rename_i permitted
            obtain rfl := Option.some.inj moved
            rw [zooGetChildren] at listed
            split at listed
            · rename_i present
              obtain rfl := Except.ok.inj listed
              exact .readChildren id path children current permitted.1 present permitted.2
            · cases listed
          · cases moved
      · cases moved
  | failChildren id =>
      simp only [step] at moved
      split at moved
      · rename_i path current
        obtain rfl := Option.some.inj moved
        exact .failChildren id path current
      · cases moved
  | readData id =>
      simp only [step] at moved
      split at moved
      · rename_i path number child children instances current
        obtain ⟨alive, moved⟩ := Option.ite_none_left_eq_some.mp moved
        obtain ⟨found, read, rfl⟩ := Option.map_eq_some_iff.mp moved
        exact .readData id path number child children instances found current
          (Bool.eq_false_iff.mpr alive) read
      · cases moved
  | failData id =>
      simp only [step] at moved
      split at moved
      · rename_i path number child children instances current
        obtain rfl := Option.some.inj moved
        exact .failData id path number child children instances current
      · cases moved
  | throwData id =>
      simp only [step] at moved
      split at moved
      · rename_i path number child children instances current
        obtain ⟨⟨alive, thrown⟩, same⟩ := Option.ite_none_right_eq_some.mp moved
        obtain rfl := Option.some.inj same
        exact .throwData id path number child children instances current alive thrown
      · cases moved
  | store id =>
      simp only [step] at moved
      split at moved
      · rename_i path number instances current
        obtain rfl := Option.some.inj moved
        exact .store id path number instances current
      · cases moved
  | endSession kept =>
      obtain ⟨some_of, same⟩ := Option.ite_none_right_eq_some.mp moved
      obtain rfl := Option.some.inj same
      exact .endSession kept some_of

/-! ## Paths and numbers of refreshes -/

/-- Refreshes that did not begin do not exist, and all paths are paths of methods. -/
structure Proper (state : State) : Prop where
  fresh : ∀ id, state.begun ≤ id → state.refreshes id = none
  refreshed : ∀ {id refresh}, state.refreshes id = some refresh → IsMethodPath refresh.path
  armed : ∀ path ∈ state.armed, IsMethodPath path
  pending : ∀ path ∈ state.pending, IsMethodPath path

theorem proper_initial (tree : Tree) : Proper { tree := tree } := by
  constructor <;> simp

namespace Proper

variable {state : State}

theorem fire (proper : Proper state) (path : Bytes) : Proper (state.fire path) where
  fresh := proper.fresh
  refreshed := proper.refreshed
  armed := fun other member => proper.armed other (List.mem_of_mem_filter member)
  pending := by
    intro other member
    rcases List.mem_append.mp member with member | member
    · exact proper.pending other member
    · exact proper.armed other (List.mem_of_mem_filter member)

theorem begin (proper : Proper state) {path : Bytes} (method : IsMethodPath path) :
    Proper (state.begin path) where
  fresh := by
    intro id late
    have ne : id ≠ state.begun := Nat.ne_of_gt late
    simpa [State.begin, ne] using proper.fresh id (Nat.le_of_succ_le late)
  refreshed := by
    intro id refresh found
    by_cases same : id = state.begun
    · obtain rfl : ⟨path, .started⟩ = refresh := by simpa [State.begin, same] using found
      exact method
    · exact proper.refreshed (by simpa [State.begin, same] using found)
  armed := proper.armed
  pending := proper.pending

theorem setStage (proper : Proper state) {id : Nat} {path : Bytes} {stage : Stage}
    (current : state.refreshes id = some ⟨path, stage⟩) (behind : Stage) :
    Proper (state.setStage id path behind) where
  fresh := by
    intro other late
    have ne : other ≠ id := by
      rintro rfl
      simp [proper.fresh other late] at current
    simpa [State.setStage, ne] using proper.fresh other late
  refreshed := by
    intro other refresh found
    by_cases same : other = id
    · obtain rfl : ⟨path, behind⟩ = refresh := by simpa [State.setStage, same] using found
      exact (proper.refreshed current : IsMethodPath path)
    · exact proper.refreshed (by simpa [State.setStage, same] using found)
  armed := proper.armed
  pending := proper.pending

theorem finish (proper : Proper state) (id : Nat) : Proper (state.finish id) where
  fresh := by
    intro other late
    by_cases same : other = id
    · simp [State.finish, same]
    · simpa [State.finish, same] using proper.fresh other late
  refreshed := by
    intro other refresh found
    by_cases same : other = id
    · simp [State.finish, same] at found
    · exact proper.refreshed (by simpa [State.finish, same] using found)
  armed := proper.armed
  pending := proper.pending

end Proper

theorem proper_step {state next : State} {action : Action} (proper : Proper state)
    (named : Named action) (stepped : Stepped state action next) : Proper next := by
  cases stepped with
  | create path data owner absent =>
      have kept : Proper { state with tree := state.tree.insert (cStr path) ⟨some data, owner⟩ } :=
        ⟨proper.fresh, proper.refreshed, proper.armed, proper.pending⟩
      exact kept.fire _
  | delete path present =>
      have kept : Proper { state with tree := state.tree.erase path } :=
        ⟨proper.fresh, proper.refreshed, proper.armed, proper.pending⟩
      exact (kept.fire _).fire _
  | hit serviceName methodName cached =>
      exact ⟨proper.fresh, proper.refreshed, proper.armed, proper.pending⟩
  | miss serviceName methodName =>
      have kept : Proper { state with
          resolved := Function.update state.resolved
            (buildMethodPath serviceName methodName) true } :=
        ⟨proper.fresh, proper.refreshed, proper.armed, proper.pending⟩
      exact kept.begin ⟨serviceName, methodName, rfl, named⟩
  | ignore path member unsplit =>
      exact ⟨proper.fresh, proper.refreshed, proper.armed,
        fun other kept => proper.pending other (List.mem_of_mem_erase kept)⟩
  | deliver path serviceName methodName member split =>
      have kept : Proper { state with pending := state.pending.erase path } :=
        ⟨proper.fresh, proper.refreshed, proper.armed,
          fun other kept => proper.pending other (List.mem_of_mem_erase kept)⟩
      obtain ⟨service, method, split', same⟩ := (proper.pending path member).split
      obtain ⟨rfl, rfl⟩ := Prod.mk.inj (Option.some.inj (split.symm.trans split'))
      exact kept.begin (same ▸ proper.pending path member)
  | readChildren id path children current alive present perm =>
      have kept := proper.setStage current (.reading state.reads children [])
      have method := proper.refreshed current
      refine ⟨kept.fresh, kept.refreshed, ?_, kept.pending⟩
      intro other member
      rcases List.mem_cons.mp member with rfl | member
      · exact method.cStr_eq.symm ▸ method
      · exact proper.armed other member
  | failChildren id path current => exact proper.finish id
  | readData id path number child children instances found current alive read =>
      exact proper.setStage current _
  | failData id path number child children instances current => exact proper.setStage current _
  | throwData id path number child children instances current alive thrown =>
      exact proper.finish id
  | store id path number instances current =>
      have kept := proper.finish id
      exact ⟨kept.fresh, kept.refreshed, kept.armed, kept.pending⟩
  | endSession kept some_of =>
      exact ⟨proper.fresh, proper.refreshed, by simp,
        fun other member => proper.pending other (some_of.subset member)⟩

/-! ## Something notices the next change -/

/-- A refresh of the path has still to read its children. -/
def State.Unread (state : State) (path : Bytes) : Prop :=
  ∃ id, state.refreshes id = some ⟨path, .started⟩

/-- A refresh of the path has read its children. -/
def State.Reading (state : State) (path : Bytes) : Prop :=
  ∃ id number children instances,
    state.refreshes id = some ⟨path, .reading number children instances⟩

/-- A watch is armed, a notification is not delivered yet, or a refresh has still to read. -/
def State.Noticing (state : State) (path : Bytes) : Prop :=
  path ∈ state.armed ∨ path ∈ state.pending ∨ state.Unread path

/-- If the children of a path cannot be read, then nothing is cached for the path and nothing will
be, or something else notices the next change.  If the session ends, then whatever is cached or will
be has a notification that is still delivered or a refresh that has still to read. -/
def Rewatched (state : State) : Action → Prop
  | .failChildren id => ∀ path, state.refreshes id = some ⟨path, .started⟩ →
      state.cache path ≠ none ∨ state.Reading path →
      path ∈ state.armed ∨ path ∈ state.pending ∨
        ∃ other, other ≠ id ∧ state.refreshes other = some ⟨path, .started⟩
  | .endSession kept => ∀ path, state.cache path ≠ none ∨ state.Reading path →
      path ∈ kept ∨ state.Unread path
  | action => Named action

/-- Whatever is cached or about to be cached is noticed. -/
def Watched (state : State) : Prop :=
  ∀ path, state.cache path ≠ none ∨ state.Reading path → state.Noticing path

/-- A watch that fires turns into a notification. -/
theorem noticing_fire {state : State} {path : Bytes} (noticing : state.Noticing path)
    (fired : Bytes) : (state.fire fired).Noticing path := by
  rcases noticing with armed | pending | unread
  · by_cases same : path = fired
    · exact Or.inr (Or.inl (List.mem_append_right _ (by simpa [same] using same ▸ armed)))
    · exact Or.inl (by simpa [State.fire, same] using armed)
  · exact Or.inr (Or.inl (List.mem_append_left _ pending))
  · exact Or.inr (Or.inr unread)

theorem unread_begin {state : State} (path : Bytes) : (state.begin path).Unread path :=
  ⟨state.begun, by simp [State.begin]⟩

section Update

variable {state next : State} {id : Nat} {value : Option Refresh} {path : Bytes}

/-- A refresh that is still to read stays, unless it is the one that makes the step. -/
theorem unread_of_update (refreshes : next.refreshes = Function.update state.refreshes id value)
    (other : state.refreshes id ≠ some ⟨path, .started⟩) (unread : state.Unread path) :
    next.Unread path := by
  obtain ⟨own, found⟩ := unread
  have ne : own ≠ id := by
    rintro rfl
    exact other found
  exact ⟨own, by simpa [refreshes, ne] using found⟩

/-- A refresh that has read did so before, unless it is the one that makes the step. -/
theorem reading_of_update (refreshes : next.refreshes = Function.update state.refreshes id value)
    (own : ∀ number children instances, value = some ⟨path, .reading number children instances⟩ →
      state.Reading path) (reading : next.Reading path) : state.Reading path := by
  obtain ⟨other, number, children, instances, found⟩ := reading
  by_cases same : other = id
  · exact own number children instances (by simpa [refreshes, same] using found)
  · exact ⟨other, number, children, instances, by simpa [refreshes, same] using found⟩

/-- What is cached or read behind a step that stores nothing was cached or read before. -/
theorem kept_of_update (kept : next.cache path ≠ none ∨ next.Reading path)
    (refreshes : next.refreshes = Function.update state.refreshes id value)
    (cache : next.cache = state.cache)
    (own : ∀ number children instances,
      value = some ⟨path, .reading number children instances⟩ → state.Reading path) :
    state.cache path ≠ none ∨ state.Reading path := by
  rw [cache] at kept
  exact kept.imp_right (reading_of_update refreshes own)

/-- A step that adds nothing to what is cached or read keeps what notices. -/
theorem watched_of_update (watched : Watched state)
    (refreshes : next.refreshes = Function.update state.refreshes id value)
    (cached : ∀ path, next.cache path ≠ none → state.cache path ≠ none ∨ state.Reading path)
    (own : ∀ path number children instances,
      value = some ⟨path, .reading number children instances⟩ → state.Reading path)
    (other : ∀ path, state.refreshes id ≠ some ⟨path, .started⟩)
    (armed : ∀ path ∈ state.armed, path ∈ next.armed)
    (pending : ∀ path ∈ state.pending, path ∈ next.pending) : Watched next := by
  intro path kept
  have before : state.cache path ≠ none ∨ state.Reading path := by
    rcases kept with in_cache | reading
    · exact cached path in_cache
    · exact Or.inr (reading_of_update refreshes (own path) reading)
  rcases watched path before with is_armed | is_pending | unread
  · exact Or.inl (armed path is_armed)
  · exact Or.inr (Or.inl (pending path is_pending))
  · exact Or.inr (Or.inr (unread_of_update refreshes (other path) unread))

end Update

theorem watched_fire {state : State} (watched : Watched state) (path : Bytes) :
    Watched (state.fire path) :=
  fun other kept => noticing_fire (watched other kept) path

theorem watched_begin {state : State} (proper : Proper state) (watched : Watched state)
    (path : Bytes) : Watched (state.begin path) := by
  have unused : state.refreshes state.begun = none := proper.fresh _ (Nat.le_refl _)
  exact watched_of_update watched rfl (fun _ cached => Or.inl cached) (by simp) (by simp [unused])
    (fun _ member => member) fun _ member => member

theorem watched_step {state next : State} {action : Action} (proper : Proper state)
    (watched : Watched state) (rewatched : Rewatched state action)
    (stepped : Stepped state action next) : Watched next := by
  cases stepped with
  | create path data owner absent =>
      have kept : Watched { state with
        tree := state.tree.insert (cStr path) ⟨some data, owner⟩ } := watched
      exact watched_fire kept _
  | delete path present =>
      have kept : Watched { state with tree := state.tree.erase path } := watched
      exact watched_fire (watched_fire kept _) _
  | hit serviceName methodName cached => exact watched
  | miss serviceName methodName => exact watched_begin proper watched _
  | ignore path member unsplit =>
      obtain ⟨_, _, split, -⟩ := (proper.pending path member).split
      cases unsplit.symm.trans split
  | deliver path serviceName methodName member split =>
      obtain ⟨service, method, split', same⟩ := (proper.pending path member).split
      obtain ⟨rfl, rfl⟩ := Prod.mk.inj (Option.some.inj (split.symm.trans split'))
      rw [same]
      have unused : state.refreshes state.begun = none := proper.fresh _ (Nat.le_refl _)
      intro other kept
      -- The notification is handled by the refresh that begins.
      by_cases eq : other = path
      · subst eq
        exact Or.inr (Or.inr (unread_begin other))
      rcases watched other (kept_of_update kept rfl rfl (by simp)) with armed | pending | unread
      · exact Or.inl armed
      · exact Or.inr (Or.inl ((List.mem_erase_of_ne eq).mpr pending))
      · exact Or.inr (Or.inr (unread_of_update rfl (by simp [unused]) unread))
  | readChildren id path children current alive present perm =>
      have method := proper.refreshed current
      intro other kept
      by_cases eq : other = path
      · exact Or.inl (List.mem_cons.mpr (Or.inl (eq.trans method.cStr_eq.symm)))
      have ne : state.refreshes id ≠ some ⟨other, .started⟩ := by
        simpa [current] using Ne.symm eq
      have before := kept_of_update kept rfl rfl (by simp [Ne.symm eq])
      rcases watched other before with armed | pending | unread
      · exact Or.inl (List.mem_cons_of_mem _ armed)
      · exact Or.inr (Or.inl pending)
      · exact Or.inr (Or.inr (unread_of_update rfl ne unread))
  | failChildren id path current =>
      intro other kept
      have before := kept_of_update kept rfl rfl (by simp)
      by_cases eq : other = path
      · subst eq
        rcases rewatched other current before with armed | pending | ⟨unread, ne, found⟩
        · exact Or.inl armed
        · exact Or.inr (Or.inl pending)
        · exact Or.inr (Or.inr ⟨unread, by simpa [State.finish, ne] using found⟩)
      · have ne : state.refreshes id ≠ some ⟨other, .started⟩ := by
          simpa [current] using Ne.symm eq
        rcases watched other before with armed | pending | unread
        · exact Or.inl armed
        · exact Or.inr (Or.inl pending)
        · exact Or.inr (Or.inr (unread_of_update rfl ne unread))
  | readData id path number child children instances found current alive read =>
      refine watched_of_update watched rfl (fun _ cached => Or.inl cached) ?_ (by simp [current])
        (fun _ member => member) fun _ member => member
      rintro other _ _ _ same
      cases same
      exact ⟨id, number, _, _, current⟩
  | failData id path number child children instances current =>
      refine watched_of_update watched rfl (fun _ cached => Or.inl cached) ?_ (by simp [current])
        (fun _ member => member) fun _ member => member
      rintro other _ _ _ same
      cases same
      exact ⟨id, number, _, _, current⟩
  | throwData id path number child children instances current alive thrown =>
      exact watched_of_update watched rfl (fun _ cached => Or.inl cached) (by simp)
        (by simp [current]) (fun _ member => member) fun _ member => member
  | store id path number instances current =>
      refine watched_of_update watched rfl ?_ (by simp) (by simp [current])
        (fun _ member => member) fun _ member => member
      intro other cached
      by_cases same : other = path
      · exact Or.inr ⟨id, number, [], instances, same ▸ current⟩
      · exact Or.inl (by simpa [State.save, same] using cached)
  | endSession kept some_of =>
      intro path before
      exact Or.inr (rewatched path before)

/-! ## Whole runs -/

theorem named_of_rewatched {state : State} {action : Action} (rewatched : Rewatched state action) :
    Named action := by
  cases action with
  | failChildren id => trivial
  | endSession kept => trivial
  | _ => exact rewatched

/-- In every run in which no failed read of children and no end of the session leaves a cached path
without a watch, a cached path is watched whenever no refresh is in progress. -/
theorem cached_path_is_watched {tree : Tree} {state : State} (run : Run Rewatched tree state)
    (idle : state.Idle) {path : Bytes} (cached : state.cache path ≠ none) :
    path ∈ state.armed ∨ path ∈ state.pending := by
  have invariant : Proper state ∧ Watched state := by
    refine run.invariant (fun state => Proper state ∧ Watched state)
      ⟨proper_initial tree, ?_⟩ ?_
    · rintro path (cached | ⟨_, _, _, _, found⟩)
      · exact absurd rfl cached
      · cases found
    · rintro state next action ⟨proper, watched⟩ rewatched moved
      have stepped := stepped_of_step moved
      exact ⟨proper_step proper (named_of_rewatched rewatched) stepped,
        watched_step proper watched rewatched stepped⟩
  rcases invariant.2 path (Or.inl cached) with armed | pending | ⟨id, found⟩
  · exact Or.inl armed
  · exact Or.inr pending
  · cases (idle id).symm.trans found

/-- A tree with the path of one method, under which nothing is registered. -/
def loginTree : Tree :=
  (newTree.insert (text "/User") ⟨some [], none⟩).insert (text "/User/Login") ⟨some [], none⟩

theorem named_resolveLogin : Named (.resolve (text "User") (text "Login")) := by
  simp only [Named]
  decide

/-- The method is resolved once. -/
theorem cached_path_is_watched_after_resolve :
    ∃ state, Run Rewatched loginTree state ∧ state.Idle ∧
      state.cache (text "/User/Login") = some [] ∧
      (text "/User/Login" ∈ state.armed ∨ text "/User/Login" ∈ state.pending) := by
  have resolved : Run Rewatched loginTree _ :=
    .step (.resolve (text "User") (text "Login")) .initial named_resolveLogin rfl
  have read := GuardedRun.step (Action.readChildren 0 []) resolved trivial rfl
  have stored := GuardedRun.step (Action.store 0) read trivial rfl
  obtain ⟨state, run, idle, cached⟩ : ∃ state, Run Rewatched loginTree state ∧ state.Idle ∧
      state.cache (text "/User/Login") = some [] := by
    refine ⟨_, stored, ?_, rfl⟩
    intro id
    simp [State.save, State.arm, State.finish, State.setStage, State.begin]
  exact ⟨state, run, idle, cached, cached_path_is_watched run idle (by simp [cached])⟩

/-- The path of the method is deleted and the refresh fails: the entry stays without a watch. -/
theorem cached_path_is_not_watched_after_delete :
    ¬ ∀ (tree : Tree) (state : State), Run (fun _ _ => True) tree state → state.Idle →
      ∀ path, state.cache path ≠ none → path ∈ state.armed ∨ path ∈ state.pending := by
  intro watched
  have resolved : Run (fun _ _ => True) loginTree _ :=
    .step (.resolve (text "User") (text "Login")) .initial trivial rfl
  have read := GuardedRun.step (Action.readChildren 0 []) resolved trivial rfl
  have stored := GuardedRun.step (Action.store 0) read trivial rfl
  have deleted := GuardedRun.step (Action.delete (text "/User/Login")) stored trivial rfl
  have delivered := GuardedRun.step (Action.deliver (text "/User/Login")) deleted trivial rfl
  have failed := GuardedRun.step (Action.failChildren 1) delivered trivial rfl
  obtain ⟨state, run, idle, cached, armed, pending⟩ : ∃ state,
      Run (fun _ _ => True) loginTree state ∧ state.Idle ∧
      state.cache (text "/User/Login") = some [] ∧ state.armed = [] ∧ state.pending = [] := by
    refine ⟨_, failed, ?_, rfl, rfl, rfl⟩
    intro id
    simp [State.save, State.arm, State.finish, State.setStage, State.begin, State.fire]
  have noticed := watched loginTree state run idle (text "/User/Login") (by simp [cached])
  simp [armed, pending] at noticed

end Refreshing

end ZkResolver

end Hxrpc
