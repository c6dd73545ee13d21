import Hxrpc.Discovery.Watching

/-!
# The cache at rest

When the requests succeed and no refresh stores its entry after one that read later, the cache
agrees with the tree as soon as no refresh is in progress and no notification is on its way.  The
refresh with the last read of a path is what counts: its watch is armed as long as nothing below the
path changed, and then what it collected is what is there.
-/

namespace Hxrpc

open ZooKeeper

namespace ZkResolver

/-! ## Reading the same twice -/

section Reading

variable {tree other : Tree} {path : Bytes}

theorem readInstances_append_singleton {children : List Bytes} {child : Bytes}
    {instances : List ServiceInstance} {found : Option ServiceInstance}
    (collected : readInstances tree path children = some instances)
    (read : readInstance tree path child = some found) :
    readInstances tree path (children ++ [child]) = some (instances ++ found.toList) := by
  induction children generalizing instances with
  | nil =>
      obtain rfl := Option.some.inj collected
      simp [readInstances, read]
  | cons first rest ih =>
      simp only [readInstances, Option.bind_eq_bind, Option.bind_eq_some_iff] at collected
      obtain ⟨one, one_read, others, others_read, same⟩ := collected
      obtain rfl := Option.some.inj same
      simp [readInstances, one_read, ih others_read]

/-- Children that read the same in another tree. -/
theorem readInstances_congr {children : List Bytes}
    (same : ∀ child ∈ children, readInstance other path child = readInstance tree path child) :
    readInstances other path children = readInstances tree path children := by
  induction children with
  | nil => rfl
  | cons child rest ih =>
      rw [readInstances, readInstances, same child List.mem_cons_self,
        ih fun child member => same child (List.mem_cons_of_mem _ member)]

/-- The order of the children is the order of the instances. -/
theorem readInstances_perm {left right : List Bytes} (perm : left.Perm right)
    {instances : List ServiceInstance} (read : readInstances tree path left = some instances) :
    ∃ others, readInstances tree path right = some others ∧ instances.Perm others := by
  induction perm generalizing instances with
  | nil => exact ⟨instances, read, .refl _⟩
  | cons child perm ih =>
      simp only [readInstances, Option.bind_eq_bind, Option.bind_eq_some_iff] at read
      obtain ⟨one, one_read, rest, rest_read, same⟩ := read
      obtain rfl := Option.some.inj same
      obtain ⟨others, others_read, rest_perm⟩ := ih rest_read
      exact ⟨one.toList ++ others, by simp [readInstances, one_read, others_read],
        rest_perm.append_left _⟩
  | swap first second rest =>
      simp only [readInstances, Option.bind_eq_bind, Option.bind_eq_some_iff] at read
      obtain ⟨one, one_read, _, ⟨two, two_read, others, others_read, inner⟩, same⟩ := read
      obtain rfl := Option.some.inj inner
      obtain rfl := Option.some.inj same
      refine ⟨two.toList ++ (one.toList ++ others), ?_, ?_⟩
      · simp [readInstances, one_read, two_read, others_read]
      · rw [← List.append_assoc, ← List.append_assoc]
        exact List.perm_append_comm.append_right _
  | trans _ _ first second =>
      obtain ⟨middle, middle_read, first_perm⟩ := first read
      obtain ⟨others, others_read, second_perm⟩ := second middle_read
      exact ⟨others, others_read, first_perm.trans second_perm⟩

/-- A node elsewhere changes neither the children of a path nor what is read from them. -/
theorem sameBelow_of_elsewhere {changed : Bytes} (method : Refreshing.IsMethodPath path)
    (terminated : ∀ key ∈ tree, 0 ∉ key) (elsewhere : parentPath changed ≠ path)
    (others : ∀ key, key ≠ changed → other.lookup key = tree.lookup key) :
    (childNames other path).Perm (childNames tree path) ∧
      ∀ child ∈ childNames tree path,
        readInstance other path child = readInstance tree path child := by
  have path_ne := method.ne_nil
  have not_root := method.ne_root
  have lookup_eq : ∀ child, slash ∉ child →
      other.lookup (path ++ slash :: child) = tree.lookup (path ++ slash :: child) := by
    intro child absent
    apply others
    rintro rfl
    exact elsewhere (parentPath_append path_ne absent)
  constructor
  · rw [List.perm_ext_iff_of_nodup (nodup_childNames path_ne not_root)
      (nodup_childNames path_ne not_root)]
    intro child
    rw [mem_childNames path_ne not_root, mem_childNames path_ne not_root]
    refine and_congr_left fun absent => ?_
    rw [← AList.lookup_isSome, ← AList.lookup_isSome, lookup_eq child absent]
  · intro child member
    obtain ⟨present, absent⟩ := (mem_childNames path_ne not_root).mp member
    have key_eq : path ++ text "/" ++ child = path ++ slash :: child := by simp [text, slash]
    have cStr_key := cStr_eq_self (terminated _ present)
    have got : ZkClient.getData other (path ++ slash :: child) =
        ZkClient.getData tree (path ++ slash :: child) := by
      simp only [ZkClient.getData, zooGet]
      rw [cStr_key, lookup_eq child absent]
    rw [readInstance, readInstance, key_eq, got]

end Reading

namespace Refreshing

/-! ## The last read of a path -/

/-- A request that fails for another reason than a missing node, a read that throws, or the end of
the session, behind which every request fails. -/
def Fails : Action → Prop
  | .failChildren _ | .failData _ | .throwData _ | .endSession _ => True
  | _ => False

/-- No refresh stores its entry after one of the same path that read its children later. -/
def StoresInOrder (state : State) : Action → Prop
  | .store id => ∀ path number instances newest,
      state.refreshes id = some ⟨path, .reading number [] instances⟩ →
      state.storedRead path = some newest → newest < number
  | _ => True

/-- Requests succeed, the session of the resolver lives, names hold no NUL and entries are stored in
order. -/
def Orderly (state : State) (action : Action) : Prop :=
  ¬ Fails action ∧ Named action ∧ StoresInOrder state action

/-- What the refresh with this read has collected, or stored, is what is in the tree. -/
def Fresh (state : State) (path : Bytes) (last : Nat) : Prop :=
  (∃ id done children instances,
    state.refreshes id = some ⟨path, .reading last children instances⟩ ∧
    (done ++ children).Perm (childNames state.tree path) ∧
    readInstances state.tree path done = some instances) ∨
  (state.storedRead path = some last ∧ ∃ entry children, state.cache path = some entry ∧
    children.Perm (childNames state.tree path) ∧
    readInstances state.tree path children = some entry)

/-- The path will be read again, or its last read is fresh and a watch is armed. -/
def UpToDate (state : State) (path : Bytes) (last : Nat) : Prop :=
  path ∈ state.pending ∨ state.Unread path ∨ path ∈ state.armed ∧ Fresh state path last

/-- The invariant of the cache. -/
structure Coherent (state : State) : Prop where
  proper : Proper state
  terminated : ∀ key ∈ state.tree, 0 ∉ key
  method : ∀ {path last}, state.lastRead path = some last → IsMethodPath path
  numbers : ∀ {id path number children instances},
    state.refreshes id = some ⟨path, .reading number children instances⟩ →
    ∃ last, state.lastRead path = some last ∧ number ≤ last
  bounded : ∀ {path last}, state.lastRead path = some last → last < state.reads
  cached : ∀ {path}, state.cache path ≠ none → state.lastRead path ≠ none
  resolved : ∀ {path}, state.resolved path = true → state.lastRead path ≠ none ∨ state.Unread path
  current : ∀ {path last}, state.lastRead path = some last → UpToDate state path last

theorem coherent_initial {tree : Tree} (terminated : ∀ key ∈ tree, 0 ∉ key) :
    Coherent { tree := tree } where
  proper := proper_initial tree
  terminated := terminated
  method := by simp
  numbers := by simp
  bounded := by simp
  cached := by simp
  resolved := by simp
  current := by simp

/-! ## Changes of the tree -/

/-- What is fresh stays fresh when nothing below the path changes. -/
theorem fresh_of_sameBelow {state : State} {tree : Tree} {path : Bytes} {last : Nat}
    (fresh : Fresh state path last)
    (same : (childNames tree path).Perm (childNames state.tree path) ∧
      ∀ child ∈ childNames state.tree path,
        readInstance tree path child = readInstance state.tree path child) :
    Fresh { state with tree := tree } path last := by
  have read_eq : ∀ {done rest : List Bytes}, (done ++ rest).Perm (childNames state.tree path) →
      readInstances tree path done = readInstances state.tree path done := by
    intro done rest perm
    apply readInstances_congr
    intro child member
    exact same.2 child (perm.mem_iff.mp (List.mem_append_left _ member))
  rcases fresh with ⟨id, done, children, instances, current, perm, read⟩ |
    ⟨stored, entry, children, cached, perm, read⟩
  · exact Or.inl ⟨id, done, children, instances, current, perm.trans same.1.symm,
      (read_eq perm).trans read⟩
  · have perm_nil : (children ++ []).Perm (childNames state.tree path) := by simpa using perm
    exact Or.inr ⟨stored, entry, children, cached, perm.trans same.1.symm,
      (read_eq perm_nil).trans read⟩

/-- A change of the tree fires the watches of the paths that it is below. -/
theorem upToDate_fire {state : State} {tree : Tree} {path fired : Bytes} {last : Nat}
    (current : UpToDate state path last)
    (kept : path ≠ fired → Fresh state path last → Fresh { state with tree := tree } path last) :
    UpToDate ({ state with tree := tree }.fire fired) path last := by
  rcases current with pending | unread | ⟨armed, fresh⟩
  · exact Or.inl (List.mem_append_left _ pending)
  · exact Or.inr (Or.inl unread)
  · by_cases same : path = fired
    · exact Or.inl (List.mem_append_right _ (by simpa [same] using same ▸ armed))
    · exact Or.inr (Or.inr ⟨by simpa [State.fire, same] using armed, kept same fresh⟩)

theorem coherent_fire {state : State} (coherent : Coherent state) {tree : Tree} {fired : Bytes}
    (terminated : ∀ key ∈ tree, 0 ∉ key)
    (kept : ∀ {path last}, IsMethodPath path → path ≠ fired → Fresh state path last →
      Fresh { state with tree := tree } path last) :
    Coherent ({ state with tree := tree }.fire fired) where
  proper := by
    have proper := coherent.proper
    have kept : Proper { state with tree := tree } :=
      ⟨proper.fresh, proper.refreshed, proper.armed, proper.pending⟩
    exact kept.fire fired
  terminated := terminated
  method := coherent.method
  numbers := coherent.numbers
  bounded := coherent.bounded
  cached := coherent.cached
  resolved := coherent.resolved
  current := fun read => upToDate_fire (coherent.current read) (kept (coherent.method read))

theorem coherent_create {state : State} (coherent : Coherent state) (path data : Bytes)
    (owner : Option Nat) :
    Coherent ({ state with tree := state.tree.insert (cStr path) ⟨some data, owner⟩ }.fire
      (parentPath (cStr path))) := by
  apply coherent_fire coherent
  · intro key member
    rcases (AList.mem_insert _).mp member with rfl | member
    · exact notMem_cStr path
    · exact coherent.terminated key member
  · intro other last method ne fresh
    exact fresh_of_sameBelow fresh (sameBelow_of_elsewhere method coherent.terminated (Ne.symm ne)
      fun key different => AList.lookup_insert_ne different)

theorem coherent_delete {state : State} (coherent : Coherent state) (path : Bytes) :
    Coherent (({ state with tree := state.tree.erase path }.fire (parentPath path)).fire path) := by
  have erased : Coherent ({ state with tree := state.tree.erase path }.fire (parentPath path)) := by
    apply coherent_fire coherent
    · intro key member
      exact coherent.terminated key (AList.mem_erase.mp member).2
    · intro other last method ne fresh
      exact fresh_of_sameBelow fresh (sameBelow_of_elsewhere method coherent.terminated
        (Ne.symm ne) fun key different => AList.lookup_erase_ne different)
  exact coherent_fire erased erased.terminated fun _ _ fresh => fresh

/-! ## Steps of the refreshes -/

section Steps

variable {state next : State} {id : Nat} {value : Option Refresh}

/-- What is fresh stays fresh when another refresh makes a step. -/
theorem fresh_of_update {path : Bytes} {last : Nat} (fresh : Fresh state path last)
    (refreshes : next.refreshes = Function.update state.refreshes id value)
    (tree : next.tree = state.tree) (cache : next.cache path = state.cache path)
    (storedRead : next.storedRead path = state.storedRead path)
    (other : ∀ children instances,
      state.refreshes id ≠ some ⟨path, .reading last children instances⟩) :
    Fresh next path last := by
  rw [Fresh, tree, cache, storedRead, refreshes]
  rcases fresh with ⟨own, done, children, instances, current, rest⟩ | stored
  · have ne : own ≠ id := by
      rintro rfl
      exact other children instances current
    exact Or.inl ⟨own, done, children, instances, by simpa [ne] using current, rest⟩
  · exact Or.inr stored

/-- A refresh begins, for a path that was resolved or for a notification that is handled. -/
theorem coherent_begin {path : Bytes} (coherent : Coherent state) (proper : Proper next)
    (refreshes : next.refreshes =
      Function.update state.refreshes state.begun (some ⟨path, .started⟩))
    (tree : next.tree = state.tree) (cache : next.cache = state.cache)
    (armed : next.armed = state.armed) (reads : next.reads = state.reads)
    (lastRead : next.lastRead = state.lastRead) (storedRead : next.storedRead = state.storedRead)
    (pending : ∀ other ∈ state.pending, other ∈ next.pending ∨ other = path)
    (resolved : ∀ other, next.resolved other = true → state.resolved other = true ∨ other = path) :
    Coherent next := by
  have unused : state.refreshes state.begun = none := coherent.proper.fresh _ (Nat.le_refl _)
  have begun : next.Unread path := ⟨state.begun, by simp [refreshes]⟩
  have unread : ∀ {other}, state.Unread other → next.Unread other :=
    fun before => unread_of_update refreshes (by simp [unused]) before
  refine ⟨proper, tree ▸ coherent.terminated, ?_, ?_, ?_, ?_, ?_, ?_⟩
  · rw [lastRead]
    exact coherent.method
  · intro own other number children instances found
    have ne : own ≠ state.begun := by
      rintro rfl
      simp [refreshes] at found
    rw [lastRead]
    exact coherent.numbers (by simpa [refreshes, ne] using found)
  · rw [lastRead, reads]
    exact coherent.bounded
  · rw [cache, lastRead]
    exact coherent.cached
  · intro other is_resolved
    rw [lastRead]
    rcases resolved other is_resolved with before | rfl
    · exact (coherent.resolved before).imp_right unread
    · exact Or.inr begun
  · intro other last read
    rw [lastRead] at read
    rcases coherent.current read with is_pending | before | ⟨is_armed, fresh⟩
    · rcases pending other is_pending with still | rfl
      · exact Or.inl still
      · exact Or.inr (Or.inl begun)
    · exact Or.inr (Or.inl (unread before))
    · refine Or.inr (Or.inr ⟨armed ▸ is_armed, ?_⟩)
      exact fresh_of_update fresh refreshes tree (by rw [cache]) (by rw [storedRead])
        (by simp [unused])

/-- The children are read and a watch is armed: this is the last read of the path from now on. -/
theorem coherent_arm {path : Bytes} {children : List Bytes} (coherent : Coherent state)
    (proper : Proper (state.arm id path children))
    (current : state.refreshes id = some ⟨path, .started⟩)
    (perm : children.Perm (childNames state.tree (cStr path))) :
    Coherent (state.arm id path children) := by
  have method : IsMethodPath path := coherent.proper.refreshed current
  have unread : ∀ {other}, other ≠ path → state.Unread other →
      (state.arm id path children).Unread other := by
    intro other ne before
    exact unread_of_update rfl (by simpa [current] using Ne.symm ne) before
  have lastRead_self : (state.arm id path children).lastRead path = some state.reads := by
    simp [State.arm]
  have lastRead_of_ne : ∀ {other}, other ≠ path →
      (state.arm id path children).lastRead other = state.lastRead other := by
    intro other ne
    simp [State.arm, ne]
  refine ⟨proper, coherent.terminated, ?_, ?_, ?_, ?_, ?_, ?_⟩
  · intro other last read
    by_cases same : other = path
    · exact same ▸ method
    · rw [lastRead_of_ne same] at read
      exact coherent.method read
  · intro own other number rest instances found
    by_cases same : own = id
    · obtain ⟨rfl, rfl, -⟩ : path = other ∧ state.reads = number ∧ _ := by
        simpa [State.arm, State.setStage, same] using found
      exact ⟨state.reads, lastRead_self, Nat.le_refl _⟩
    · have before : state.refreshes own = some ⟨other, .reading number rest instances⟩ := by
        simpa [State.arm, State.setStage, same] using found
      obtain ⟨last, read, le⟩ := coherent.numbers before
      by_cases eq : other = path
      · have lt := coherent.bounded read
        exact ⟨state.reads, eq ▸ lastRead_self, by omega⟩
      · exact ⟨last, (lastRead_of_ne eq).trans read, le⟩
  · intro other last read
    simp only [State.arm]
    by_cases same : other = path
    · rw [same, lastRead_self] at read
      obtain rfl := Option.some.inj read
      omega
    · rw [lastRead_of_ne same] at read
      exact Nat.lt_succ_of_lt (coherent.bounded read)
  · intro other cached
    by_cases same : other = path
    · simp [same, lastRead_self]
    · rw [lastRead_of_ne same]
      exact coherent.cached cached
  · intro other resolved
    by_cases same : other = path
    · exact Or.inl (by simp [same, lastRead_self])
    · rw [lastRead_of_ne same]
      exact (coherent.resolved resolved).imp_right (unread same)
  · intro other last read
    by_cases same : other = path
    · subst same
      obtain rfl := Option.some.inj (lastRead_self.symm.trans read)
      refine Or.inr (Or.inr ⟨by simp [State.arm, method.cStr_eq], Or.inl ?_⟩)
      rw [method.cStr_eq] at perm
      exact ⟨id, [], children, [], by simp [State.arm, State.setStage], perm, rfl⟩
    · rw [lastRead_of_ne same] at read
      rcases coherent.current read with pending | before | ⟨armed, fresh⟩
      · exact Or.inl pending
      · exact Or.inr (Or.inl (unread same before))
      · refine Or.inr (Or.inr ⟨List.mem_cons_of_mem _ armed, ?_⟩)
        exact fresh_of_update fresh rfl rfl rfl rfl (by simp [current])

/-- The next child is read. -/
theorem coherent_readData {path : Bytes} {number : Nat} {child : Bytes} {children : List Bytes}
    {instances : List ServiceInstance} {found : Option ServiceInstance} (coherent : Coherent state)
    (proper :
      Proper (state.setStage id path (.reading number children (instances ++ found.toList))))
    (current : state.refreshes id = some ⟨path, .reading number (child :: children) instances⟩)
    (read : readInstance state.tree path child = some found) :
    Coherent (state.setStage id path (.reading number children (instances ++ found.toList))) := by
  have unread : ∀ {other}, state.Unread other → State.Unread
      (state.setStage id path (.reading number children (instances ++ found.toList))) other :=
    fun before => unread_of_update rfl (by simp [current]) before
  refine ⟨proper, coherent.terminated, coherent.method, ?_, coherent.bounded, coherent.cached,
    fun resolved => (coherent.resolved resolved).imp_right unread, ?_⟩
  · intro own other index rest collected own_found
    by_cases same : own = id
    · obtain ⟨rfl, rfl, -⟩ : path = other ∧ number = index ∧ _ := by
        simpa [State.setStage, same] using own_found
      exact coherent.numbers current
    · exact coherent.numbers (by simpa [State.setStage, same] using own_found)
  · intro other last last_read
    rcases coherent.current last_read with pending | before | ⟨armed, fresh⟩
    · exact Or.inl pending
    · exact Or.inr (Or.inl (unread before))
    · refine Or.inr (Or.inr ⟨armed, ?_⟩)
      rcases fresh with ⟨own, done, left, collected, own_found, perm, done_read⟩ | stored
      · by_cases same : own = id
        · -- The refresh with the last read itself goes on.
          subst same
          obtain ⟨rfl, rfl, rfl, rfl⟩ : path = other ∧ number = last ∧ child :: children = left ∧
              instances = collected := by simpa [current] using own_found
          exact Or.inl ⟨own, done ++ [child], children, instances ++ found.toList,
            by simp [State.setStage], by simpa [State.setStage] using perm,
            readInstances_append_singleton done_read read⟩
        · exact Or.inl ⟨own, done, left, collected, by simpa [State.setStage, same] using own_found,
            perm, done_read⟩
      · exact Or.inr stored

/-- The entry is stored: it is that of the last read, or the last read is still under way. -/
theorem coherent_save {path : Bytes} {number : Nat} {instances : List ServiceInstance}
    (coherent : Coherent state) (proper : Proper (state.save id path number instances))
    (current : state.refreshes id = some ⟨path, .reading number [] instances⟩)
    (inOrder : ∀ newest, state.storedRead path = some newest → newest < number) :
    Coherent (state.save id path number instances) := by
  obtain ⟨newest, newest_read, number_le⟩ := coherent.numbers current
  have unread : ∀ {other}, state.Unread other →
      (state.save id path number instances).Unread other :=
    fun before => unread_of_update rfl (by simp [current]) before
  refine ⟨proper, coherent.terminated, coherent.method, ?_, coherent.bounded, ?_,
    fun resolved => (coherent.resolved resolved).imp_right unread, ?_⟩
  · intro own other index rest collected found
    by_cases same : own = id
    · simp [State.save, State.finish, same] at found
    · exact coherent.numbers (by simpa [State.save, State.finish, same] using found)
  · intro other cached
    by_cases same : other = path
    · rw [same]
      exact newest_read ▸ Option.some_ne_none newest
    · exact coherent.cached (by simpa [State.save, same] using cached)
  · intro other last last_read
    rcases coherent.current last_read with pending | before | ⟨armed, fresh⟩
    · exact Or.inl pending
    · exact Or.inr (Or.inl (unread before))
    · refine Or.inr (Or.inr ⟨armed, ?_⟩)
      by_cases eq : other = path
      · subst eq
        obtain rfl := Option.some.inj (newest_read.symm.trans last_read)
        rcases fresh with ⟨own, done, left, collected, found, perm, read⟩ | ⟨stored, -⟩
        · by_cases same : own = id
          · subst same
            obtain ⟨rfl, rfl, rfl⟩ : number = newest ∧ [] = left ∧ instances = collected := by
              simpa [current] using found
            exact Or.inr ⟨by simp [State.save], instances, done, by simp [State.save],
              by simpa [State.save, State.finish] using perm, read⟩
          · exact Or.inl ⟨own, done, left, collected,
              by simpa [State.save, State.finish, same] using found, perm, read⟩
        · exact absurd (inOrder newest stored) (Nat.not_lt.mpr number_le)
      · refine fresh_of_update fresh rfl rfl ?_ ?_ ?_
        · simp [State.save, eq]
        · simp [State.save, eq]
        · simp [current, Ne.symm eq]

/-- Every orderly step keeps the cache coherent. -/
theorem coherent_step {action : Action} (coherent : Coherent state)
    (orderly : Orderly state action) (stepped : Stepped state action next) : Coherent next := by
  obtain ⟨succeeds, named, inOrder⟩ := orderly
  have proper := proper_step coherent.proper named stepped
  cases stepped with
  | create path data owner absent => exact coherent_create coherent path data owner
  | delete path present => exact coherent_delete coherent path
  | hit serviceName methodName cached =>
      refine ⟨proper, coherent.terminated, coherent.method, coherent.numbers, coherent.bounded,
        coherent.cached, ?_, coherent.current⟩
      intro path resolved
      by_cases same : path = buildMethodPath serviceName methodName
      · subst same
        exact Or.inl (coherent.cached cached)
      · exact coherent.resolved (by simpa [same] using resolved)
  | miss serviceName methodName =>
      refine coherent_begin coherent proper rfl rfl rfl rfl rfl rfl rfl
        (fun _ member => Or.inl member) ?_
      intro path resolved
      by_cases same : path = buildMethodPath serviceName methodName
      · exact Or.inr same
      · exact Or.inl (by simpa [State.begin, same] using resolved)
  | ignore path member unsplit =>
      obtain ⟨_, _, split, -⟩ := (coherent.proper.pending path member).split
      cases unsplit.symm.trans split
  | deliver path serviceName methodName member split =>
      obtain ⟨service, method, split', same⟩ := (coherent.proper.pending path member).split
      obtain ⟨rfl, rfl⟩ := Prod.mk.inj (Option.some.inj (split.symm.trans split'))
      refine coherent_begin coherent proper rfl rfl rfl rfl rfl rfl rfl ?_
        (fun _ resolved => Or.inl resolved)
      intro other pending
      by_cases eq : other = path
      · exact Or.inr (eq.trans same.symm)
      · exact Or.inl ((List.mem_erase_of_ne eq).mpr pending)
  | readChildren id path children current alive present perm =>
      exact coherent_arm coherent proper current perm
  | failChildren id path current => exact absurd trivial succeeds
  | readData id path number child children instances found current alive read =>
      exact coherent_readData coherent proper current read
  | failData id path number child children instances current => exact absurd trivial succeeds
  | throwData id path number child children instances current alive thrown =>
      exact absurd trivial succeeds
  | store id path number instances current =>
      exact coherent_save coherent proper current fun newest stored =>
        inOrder path number instances newest current stored
  | endSession kept some_of => exact absurd trivial succeeds

end Steps

/-! ## Whole runs -/

/-- In every run in which the session lives, the requests succeed and entries are stored in order, a
path that was resolved has the current instances in the cache whenever no refresh is in progress and
no notification is on its way. -/
theorem cache_is_coherent_at_rest {tree : Tree} (terminated : ∀ key ∈ tree, 0 ∉ key)
    {state : State} (run : Run Orderly tree state) (idle : state.Idle) (quiet : state.pending = [])
    {path : Bytes} (resolved : state.resolved path = true) :
    ∃ entry current, state.cache path = some entry ∧
      readInstances state.tree path (childNames state.tree path) = some current ∧
      entry.Perm current := by
  have coherent : Coherent state := by
    apply run.invariant Coherent (coherent_initial terminated)
    intro state next action coherent orderly moved
    exact coherent_step coherent orderly (stepped_of_step moved)
  have no_unread : ¬ state.Unread path := by
    rintro ⟨id, found⟩
    cases (idle id).symm.trans found
  have read := (coherent.resolved resolved).resolve_right no_unread
  obtain ⟨last, last_read⟩ := Option.ne_none_iff_exists'.mp read
  rcases coherent.current last_read with pending | unread | ⟨-, fresh⟩
  · simp [quiet] at pending
  · exact absurd unread no_unread
  · rcases fresh with ⟨id, _, _, _, found, -⟩ | ⟨-, entry, children, cached, perm, entry_read⟩
    · cases (idle id).symm.trans found
    · obtain ⟨current, current_read, same⟩ := readInstances_perm perm entry_read
      exact ⟨entry, current, cached, current_read, same⟩

theorem terminated_loginTree : ∀ key ∈ loginTree, 0 ∉ key := by
  have keys : ∀ key ∈ loginTree.keys, 0 ∉ key := by decide
  exact fun key member => keys key (AList.mem_keys.mp member)

/-- An instance is registered after the method was resolved, and the watcher refreshes the entry. -/
theorem cache_is_coherent_after_registration :
    ∃ state entry current, Run Orderly loginTree state ∧ state.Idle ∧
      state.cache (text "/User/Login") = some entry ∧
      readInstances state.tree (text "/User/Login")
        (childNames state.tree (text "/User/Login")) = some current ∧
      entry.Perm current := by
  have resolved : Run Orderly loginTree _ :=
    .step (.resolve (text "User") (text "Login")) .initial ⟨id, named_resolveLogin, trivial⟩ rfl
  have read := GuardedRun.step (Action.readChildren 0 []) resolved ⟨id, trivial, trivial⟩ rfl
  have stored := GuardedRun.step (Action.store 0) read
    ⟨id, trivial, fun _ _ _ _ _ before => by cases before⟩ rfl
  have created := GuardedRun.step
    (Action.create (text "/User/Login/h:80") (text "h:80") (some 1)) stored
    ⟨id, trivial, trivial⟩ rfl
  have delivered := GuardedRun.step (Action.deliver (text "/User/Login")) created
    ⟨id, trivial, trivial⟩ rfl
  have again := GuardedRun.step (Action.readChildren 1 [text "h:80"]) delivered
    ⟨id, trivial, trivial⟩ rfl
  have data := GuardedRun.step (Action.readData 1) again ⟨id, trivial, trivial⟩ rfl
  have stored_again := GuardedRun.step (Action.store 1) data ⟨id, trivial, by
    intro path number instances newest found before
    cases found
    cases before
    decide⟩ rfl
  obtain ⟨state, run, idle, quiet, is_resolved⟩ : ∃ state, Run Orderly loginTree state ∧
      state.Idle ∧ state.pending = [] ∧ state.resolved (text "/User/Login") = true := by
    refine ⟨_, stored_again, ?_, rfl, rfl⟩
    intro id
    simp [State.save, State.arm, State.finish, State.setStage, State.begin, State.fire]
  obtain ⟨entry, current, cached, current_read, same⟩ :=
    cache_is_coherent_at_rest terminated_loginTree run idle quiet is_resolved
  exact ⟨state, entry, current, run, idle, cached, current_read, same⟩

/-- The refresh of `Resolve` reads no children and stores its entry after the refresh of the
watcher, which found the new instance: the entry stays empty. -/
theorem cache_is_stale_after_late_store :
    ¬ ∀ (tree : Tree) (state : State), (∀ key ∈ tree, 0 ∉ key) →
      Run (fun _ action => ¬ Fails action ∧ Named action) tree state → state.Idle →
      state.pending = [] → ∀ path, state.resolved path = true →
      ∃ entry current, state.cache path = some entry ∧
        readInstances state.tree path (childNames state.tree path) = some current ∧
        entry.Perm current := by
  intro coherent
  have resolved : Run (fun _ action => ¬ Fails action ∧ Named action) loginTree _ :=
    .step (.resolve (text "User") (text "Login")) .initial ⟨id, named_resolveLogin⟩ rfl
  have read := GuardedRun.step (Action.readChildren 0 []) resolved ⟨id, trivial⟩ rfl
  have created := GuardedRun.step
    (Action.create (text "/User/Login/h:80") (text "h:80") (some 1)) read ⟨id, trivial⟩ rfl
  have delivered := GuardedRun.step (Action.deliver (text "/User/Login")) created ⟨id, trivial⟩ rfl
  have again := GuardedRun.step (Action.readChildren 1 [text "h:80"]) delivered ⟨id, trivial⟩ rfl
  have data := GuardedRun.step (Action.readData 1) again ⟨id, trivial⟩ rfl
  have newer := GuardedRun.step (Action.store 1) data ⟨id, trivial⟩ rfl
  have older := GuardedRun.step (Action.store 0) newer ⟨id, trivial⟩ rfl
  obtain ⟨state, run, idle, quiet, is_resolved, cached, current_read⟩ : ∃ state,
      Run (fun _ action => ¬ Fails action ∧ Named action) loginTree state ∧ state.Idle ∧
      state.pending = [] ∧ state.resolved (text "/User/Login") = true ∧
      state.cache (text "/User/Login") = some [] ∧
      readInstances state.tree (text "/User/Login")
        (childNames state.tree (text "/User/Login")) = some [⟨text "h:80", ⟨text "h", 80⟩⟩] := by
    refine ⟨_, older, ?_, rfl, rfl, rfl, rfl⟩
    intro id
    rcases id with _ | _ | rest
    · rfl
    · rfl
    · simp [State.save, State.arm, State.finish, State.setStage, State.begin, State.fire]
  obtain ⟨entry, current, entry_eq, current_eq, same⟩ :=
    coherent loginTree state terminated_loginTree run idle quiet _ is_resolved
  obtain rfl := Option.some.inj (cached.symm.trans entry_eq)
  obtain rfl := Option.some.inj (current_read.symm.trans current_eq)
  simp at same

end Refreshing

end ZkResolver

end Hxrpc
