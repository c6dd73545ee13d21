import Hxrpc.Client.Descriptors
import Hxrpc.Lib.Custody
import Hxrpc.Lib.Decimal
import Hxrpc.Lib.GuardedRun

/-!
# Who owns a descriptor

Every descriptor that the transport opened is held by one call or waits in one bucket of the pool,
and no call touches a descriptor that is closed.  What one step can do to the ownership of
descriptors is said once; the invariant and the results about whole runs follow from it.
-/

namespace Hxrpc

namespace TcpClientTransport

/-- The port is the text behind the last colon, whatever the host is. -/
theorem endpointKey_injective : Function.Injective endpointKey := by
  rintro ⟨left_host, left_port⟩ ⟨right_host, right_port⟩ same
  have no_colon : ∀ n, (58 : UInt8) ∉ Decimal.digits n :=
    fun n => Decimal.notMem_digits (by decide)
  have split_eq : left_host ++ 58 :: Decimal.digits left_port.toNat =
      right_host ++ 58 :: Decimal.digits right_port.toNat := by
    simpa [endpointKey, Endpoint.toString, text, Decimal.digits] using same
  obtain ⟨rfl, ports⟩ :=
    Decimal.append_cons_inj_of_notMem (no_colon _) (no_colon _) split_eq
  obtain rfl := UInt16.toNat.inj (Decimal.digits_injective ports)
  rfl

namespace Descriptors

/-! ## Buckets -/

@[simp] theorem bucket_empty (key : Bytes) : bucket ∅ key = [] := rfl

@[simp] theorem bucket_insert (pool : IdlePool) (key : Bytes) (sockets : List Fd) :
    bucket (pool.insert key sockets) key = sockets := by
  simp [bucket]

theorem bucket_insert_of_ne (pool : IdlePool) {key other : Bytes} (ne : other ≠ key)
    (sockets : List Fd) : bucket (pool.insert key sockets) other = bucket pool other := by
  simp [bucket, AList.lookup_insert_ne ne]

@[simp] theorem bucket_popBack (pool : IdlePool) (key : Bytes) :
    bucket (popBack pool key) key = (bucket pool key).dropLast := by
  simp only [popBack]
  split
  · rename_i empty
    rw [empty]
    simp [bucket]
  · simp

theorem bucket_popBack_of_ne (pool : IdlePool) {key other : Bytes} (ne : other ≠ key) :
    bucket (popBack pool key) other = bucket pool other := by
  simp only [popBack]
  split
  · simp [bucket, AList.lookup_erase_ne ne]
  · exact bucket_insert_of_ne pool ne _

/-- The sockets of all buckets, in any order of iteration. -/
theorem mem_flatMap_entries_iff {pool : IdlePool} {order : List (Σ _ : Bytes, List Fd)}
    (same : order.Perm pool.entries) {fd : Fd} :
    fd ∈ order.flatMap Sigma.snd ↔ ∃ key, fd ∈ bucket pool key := by
  rw [(same.flatMap_right Sigma.snd).mem_iff, List.mem_flatMap]
  constructor
  · rintro ⟨⟨key, sockets⟩, entry, member⟩
    refine ⟨key, ?_⟩
    have found : pool.lookup key = some sockets := AList.mem_lookup_iff.mpr entry
    simpa [bucket, found] using member
  · rintro ⟨key, member⟩
    cases found : pool.lookup key with
    | none => simp [bucket, found] at member
    | some sockets =>
        exact ⟨⟨key, sockets⟩, AList.mem_lookup_iff.mp found, by simpa [bucket, found] using member⟩

/-! ## What a step does to the owners -/

/-- What one step of a call does to the descriptors: nothing, or it takes one out of the pool, opens
one, closes the one it holds or files it. -/
inductive Moved (state : State) (id : Nat) (call : Call) : State → Prop where
  | keep {next : State} (phase : Phase) (held : phase.held = call.phase.held)
      (opened : next.opened = state.opened) (pool : next.idlePool = state.idlePool)
      (calls : next.calls = Function.update state.calls id (some { call with phase := phase }))
      (started : next.started = state.started) : Moved state id call next
  | pop {next : State} (phase : Phase) (fd : Fd) (idle : call.phase.held = none)
      (held : phase.held = some fd)
      (last : (bucket state.idlePool (endpointKey call.endpoint)).getLast? = some fd)
      (opened : next.opened = state.opened)
      (pool : next.idlePool = popBack state.idlePool (endpointKey call.endpoint))
      (calls : next.calls = Function.update state.calls id (some { call with phase := phase }))
      (started : next.started = state.started) : Moved state id call next
  | open {next : State} (phase : Phase) (fd : Fd) (idle : call.phase.held = none)
      (held : phase.held = some fd) (free : state.opened fd = none)
      (opened : next.opened = Function.update state.opened fd (some call.endpoint))
      (pool : next.idlePool = state.idlePool)
      (calls : next.calls = Function.update state.calls id (some { call with phase := phase }))
      (started : next.started = state.started) : Moved state id call next
  | close {next : State} (phase : Phase) (fd : Fd) (holds : call.phase.held = some fd)
      (held : phase.held = none)
      (opened : next.opened = Function.update state.opened fd none)
      (pool : next.idlePool = state.idlePool)
      (calls : next.calls = Function.update state.calls id (some { call with phase := phase }))
      (started : next.started = state.started) : Moved state id call next
  | file {next : State} (phase : Phase) (fd : Fd) (holds : call.phase.held = some fd)
      (held : phase.held = none)
      (room : (bucket state.idlePool (endpointKey call.endpoint)).length < kMaxIdlePerEndpoint)
      (opened : next.opened = state.opened)
      (pool : next.idlePool = state.idlePool.insert (endpointKey call.endpoint)
        (bucket state.idlePool (endpointKey call.endpoint) ++ [fd]))
      (calls : next.calls = Function.update state.calls id (some { call with phase := phase }))
      (started : next.started = state.started) : Moved state id call next

theorem held_continueSend (call : Call) (fd : Fd) (offset : Nat) :
    (continueSend call fd offset).held = some fd := by
  simp only [continueSend]
  split <;> rfl

theorem held_continueLength (fd : Fd) (buffer : Bytes) :
    (continueLength fd buffer).held = some fd := by
  simp only [continueLength]
  split
  · rfl
  · split <;> rfl

theorem held_continueBody (fd : Fd) (lengthField : Bytes) (size : Nat) (buffer : Bytes) :
    (continueBody fd lengthField size buffer).held = some fd := by
  simp only [continueBody]
  split <;> rfl

/-- A system call that neither opens nor closes leaves the call with the descriptor it held. -/
theorem held_of_afterCall {strerror : Nat → Bytes} {call : Call} {phase : Phase}
    {outcome : Outcome} {behind : Phase × Bool}
    (moved : afterCall strerror call phase outcome = some behind) :
    behind.1.held = phase.held := by
  -- One goal for each system call with its result; the transfers have one more for a failure.
  simp only [afterCall] at moved
  split at moved
  all_goals try split at moved
  all_goals cases moved
  all_goals first
    | rfl
    | exact held_continueSend _ _ _
    | exact held_continueLength _ _
    | exact held_continueBody _ _ _ _

section GoOn

variable (state : State) (id : Nat) (call : Call) (behind : Phase × Bool)

@[simp] theorem opened_goOn : (goOn state id call behind).opened = state.opened := by
  simp only [goOn]
  split <;> rfl

@[simp] theorem idlePool_goOn : (goOn state id call behind).idlePool = state.idlePool := by
  simp only [goOn]
  split <;> rfl

@[simp] theorem calls_goOn : (goOn state id call behind).calls =
    Function.update state.calls id (some { call with phase := behind.1 }) := by
  simp only [goOn]
  split <;> rfl

@[simp] theorem started_goOn : (goOn state id call behind).started = state.started := by
  simp only [goOn]
  split <;> rfl

end GoOn

/-- A `close` on the descriptor that the call holds. -/
theorem moved_close {state : State} {id : Nat} {call : Call} {fd : Fd}
    (holds : call.phase.held = some fd) {behind : Phase × Bool} (held : behind.1.held = none) :
    Moved state id call (goOn (state.close fd) id call behind) :=
  .close behind.1 fd holds held (by simp [State.close]) (by simp [State.close])
    (by simp [State.close]) (by simp [State.close])

section LockedSections

variable {strerror : Nat → Bytes} {state next : State} {id : Nat} {call : Call}

/-- `BorrowConnection` takes the last socket of the bucket, or none. -/
theorem moved_borrowConnection (idle : call.phase.held = none)
    (moved : borrowConnection state id call = some next) : Moved state id call next := by
  simp only [borrowConnection] at moved
  split at moved
  · cases moved
  split at moved
  · obtain rfl := Option.some.inj moved
    exact .keep .socket idle.symm rfl rfl rfl rfl
  · rename_i fd last
    obtain rfl := Option.some.inj moved
    exact .pop (.getFlags fd) fd idle rfl last rfl rfl rfl rfl

/-- `socket` opens a descriptor that is not open, or fails. -/
theorem moved_openSocket (idle : call.phase.held = none) {outcome : Outcome}
    (moved : openSocket strerror state id call outcome = some next) :
    Moved state id call next := by
  simp only [openSocket] at moved
  split at moved
  · rename_i fd
    split at moved
    · cases moved
    · rename_i usable
      obtain rfl := Option.some.inj moved
      have free : state.opened fd = none := not_not.mp fun taken => usable (Or.inr taken)
      exact .open (.convertHost fd) fd idle rfl free rfl rfl rfl rfl
  · rename_i errno
    obtain rfl := Option.some.inj moved
    exact .keep (.finished (.error (systemError strerror "socket failed" errno))) idle.symm
      (by simp) (by simp) (by simp) (by simp)
  · cases moved

/-- `ReturnConnection` files the socket, or keeps it when its bucket is full. -/
theorem moved_returnConnection {fd : Fd} {frame : Bytes} (holds : call.phase.held = some fd)
    (moved : returnConnection state id call fd frame = some next) :
    Moved state id call next := by
  simp only [returnConnection] at moved
  split at moved
  · cases moved
  split at moved
  · obtain rfl := Option.some.inj moved
    exact .keep (.closeSurplus fd frame) holds.symm rfl rfl rfl rfl
  · rename_i room
    obtain rfl := Option.some.inj moved
    exact .file (.finished (.ok frame)) fd holds rfl (Nat.lt_of_not_le room) rfl rfl rfl rfl

/-- Every step of a call is one of these. -/
theorem moved_of_move {outcome : Outcome}
    (moved : move strerror state id call call.phase outcome = some next) :
    Moved state id call next := by
  simp only [move] at moved
  split at moved
  · rename_i phase_eq
    exact moved_borrowConnection (by rw [phase_eq]; rfl) moved
  · rename_i phase_eq
    exact moved_openSocket (by rw [phase_eq]; rfl) moved
  · rename_i phase_eq
    exact moved_returnConnection (by rw [phase_eq]; rfl) moved
  · rename_i phase_eq
    obtain rfl := Option.some.inj moved
    exact moved_close (by rw [phase_eq]; rfl) rfl
  · rename_i phase_eq
    obtain rfl := Option.some.inj moved
    exact moved_close (by rw [phase_eq]; rfl) rfl
  · rename_i phase_eq
    obtain rfl := Option.some.inj moved
    exact moved_close (by rw [phase_eq]; rfl) rfl
  · rename_i phase_eq
    obtain rfl := Option.some.inj moved
    exact moved_close (by rw [phase_eq]; rfl) rfl
  · obtain ⟨behind, called, rfl⟩ := Option.map_eq_some_iff.mp moved
    exact .keep behind.1 (held_of_afterCall called) (by simp) (by simp) (by simp) (by simp)

end LockedSections

/-! ## The invariant -/

/-- The descriptor in the hands of a call. -/
def holder (state : State) (id : Nat) : Option Fd :=
  (state.calls id).bind (·.phase.held)

/-- The endpoint that a call is for. -/
def target (state : State) (id : Nat) : Option Endpoint :=
  (state.calls id).map (·.endpoint)

/-- Every open descriptor is in the custody of one call or of one bucket, and calls that were not
started yet do not exist. -/
structure Owned (state : State) : Prop where
  custody : Custody endpointKey kMaxIdlePerEndpoint state.opened (holder state) (target state)
    (bucket state.idlePool)
  unstarted : ∀ id, state.started ≤ id → state.calls id = none

theorem owned_initial : Owned {} where
  custody := Custody.empty endpointKey kMaxIdlePerEndpoint _
  unstarted := fun _ _ => rfl

theorem holder_update {state next : State} {id : Nat} {call : Call}
    (calls : next.calls = Function.update state.calls id (some call)) :
    holder next = Function.update (holder state) id call.phase.held := by
  funext other
  by_cases same : other = id
  · subst same
    simp [holder, calls]
  · simp [holder, calls, same]

theorem target_update {state next : State} {id : Nat} {call : Call}
    (calls : next.calls = Function.update state.calls id (some call)) :
    target next = Function.update (target state) id (some call.endpoint) := by
  funext other
  by_cases same : other = id
  · subst same
    simp [target, calls]
  · simp [target, calls, same]

/-- A step of a call keeps its endpoint. -/
theorem target_of_phase {state next : State} {id : Nat} {call : Call} {phase : Phase}
    (current : state.calls id = some call)
    (calls : next.calls = Function.update state.calls id (some { call with phase := phase })) :
    target next = target state := by
  rw [target_update calls, Function.update_eq_self_iff]
  simp [target, current]

theorem unstarted_of_phase {state next : State} {id : Nat} {call next_call : Call}
    (unstarted : ∀ other, state.started ≤ other → state.calls other = none)
    (current : state.calls id = some call)
    (calls : next.calls = Function.update state.calls id (some next_call))
    (started : next.started = state.started) :
    ∀ other, next.started ≤ other → next.calls other = none := by
  intro other late
  rw [started] at late
  have ne : other ≠ id := by
    rintro rfl
    simp [unstarted other late] at current
  rw [calls, Function.update_of_ne ne]
  exact unstarted other late

/-- One step of a call keeps custody. -/
theorem custody_of_moved {state next : State} {id : Nat} {call : Call} (owned : Owned state)
    (current : state.calls id = some call) (moved : Moved state id call next) :
    Custody endpointKey kMaxIdlePerEndpoint next.opened (holder next) (target next)
      (bucket next.idlePool) := by
  have wants : target state id = some call.endpoint := by simp [target, current]
  have holder_eq : holder state id = call.phase.held := by simp [holder, current]
  cases moved with
  | keep phase held opened pool calls started =>
      rw [opened, pool, target_of_phase current calls, holder_update calls, held, ← holder_eq,
        Function.update_eq_self]
      exact owned.custody
  | pop phase fd idle held last opened pool calls started =>
      rw [opened, pool, target_of_phase current calls, holder_update calls, held]
      exact owned.custody.take endpointKey_injective (holder_eq.trans idle) wants last
        (bucket_popBack _ _) fun _ ne => bucket_popBack_of_ne _ ne
  | «open» phase fd idle held free opened pool calls started =>
      rw [opened, pool, target_of_phase current calls, holder_update calls, held]
      exact owned.custody.mint (holder_eq.trans idle) wants free
  | close phase fd holds held opened pool calls started =>
      rw [opened, pool, target_of_phase current calls, holder_update calls, held]
      exact owned.custody.burn (holder_eq.trans holds)
  | file phase fd holds held room opened pool calls started =>
      rw [opened, pool, target_of_phase current calls, holder_update calls, held]
      exact owned.custody.file (holder_eq.trans holds) wants room (bucket_insert _ _ _)
        fun _ ne => bucket_insert_of_ne _ ne _

theorem Moved.calls_eq {state next : State} {id : Nat} {call : Call}
    (moved : Moved state id call next) :
    next.started = state.started ∧ ∃ phase,
      next.calls = Function.update state.calls id (some { call with phase := phase }) := by
  cases moved <;> exact ⟨‹_›, _, ‹_›⟩

theorem owned_of_moved {state next : State} {id : Nat} {call : Call} (owned : Owned state)
    (current : state.calls id = some call) (moved : Moved state id call next) : Owned next := by
  obtain ⟨started, phase, calls⟩ := moved.calls_eq
  exact ⟨custody_of_moved owned current moved,
    unstarted_of_phase owned.unstarted current calls started⟩

/-- A new call holds nothing. -/
theorem owned_start {state : State} (owned : Owned state) (endpoint : Endpoint) (frame : Bytes) :
    Owned { state with
      calls := Function.update state.calls state.started (some ⟨endpoint, frame, .borrow⟩)
      started := state.started + 1 } where
  custody := by
    have idle : holder state state.started = none := by
      simp [holder, owned.unstarted state.started (Nat.le_refl _)]
    rw [target_update rfl, holder_update rfl]
    simp only [Phase.held]
    rw [← idle, Function.update_eq_self]
    exact owned.custody.want idle _
  unstarted := by
    intro id late
    have ne : id ≠ state.started := Nat.ne_of_gt (Nat.lt_of_succ_le late)
    exact (Function.update_of_ne ne _ _).trans (owned.unstarted id (Nat.le_of_succ_le late))

/-- The descriptor that a call uses is open, and was opened for the endpoint of the call. -/
theorem opened_of_held {state : State} (owned : Owned state) {id : Nat} {call : Call} {fd : Fd}
    (current : state.calls id = some call) (held : call.phase.held = some fd) :
    state.opened fd = some call.endpoint := by
  have holds : holder state id = some fd := by simpa [holder, current] using held
  obtain ⟨endpoint, wants, opened⟩ := owned.custody.held holds
  have same : call.endpoint = endpoint := by simpa [target, current] using wants
  rw [same]
  exact opened

/-- No step is a misuse, and every step is one of those above. -/
theorem step_cases {strerror : Nat → Bytes} {state : State} (owned : Owned state)
    {action : Action} {result : Except Misuse State}
    (moved : step strerror state action = some result) :
    (∃ endpoint frame, result = .ok { state with
        calls := Function.update state.calls state.started (some ⟨endpoint, frame, .borrow⟩)
        started := state.started + 1 }) ∨
      ∃ id call next, state.calls id = some call ∧ Moved state id call next ∧
        result = .ok next := by
  cases action with
  | start endpoint frame => exact Or.inl ⟨endpoint, frame, (Option.some.inj moved).symm⟩
  | move id outcome =>
      refine Or.inr ?_
      simp only [step, Option.bind_eq_bind, Option.bind_eq_some_iff] at moved
      obtain ⟨call, current, moved⟩ := moved
      split at moved
      · rename_i fd held
        rw [if_neg (by simp [opened_of_held owned current held])] at moved
        obtain ⟨next, called, rfl⟩ := Option.map_eq_some_iff.mp moved
        exact ⟨id, call, next, current, moved_of_move called, rfl⟩
      · obtain ⟨next, called, rfl⟩ := Option.map_eq_some_iff.mp moved
        exact ⟨id, call, next, current, moved_of_move called, rfl⟩

theorem owned_of_step {strerror : Nat → Bytes} {state next : State} {action : Action}
    (owned : Owned state) (moved : step strerror state action = some (.ok next)) : Owned next := by
  rcases step_cases owned moved with ⟨endpoint, frame, same⟩ | ⟨id, call, _, current, moved, same⟩
  · obtain rfl := Except.ok.inj same
    exact owned_start owned endpoint frame
  · obtain rfl := Except.ok.inj same
    exact owned_of_moved owned current moved

theorem owned_of_run {strerror : Nat → Bytes} {state : State} (run : Run strerror state) :
    Owned state := by
  induction run with
  | initial => exact owned_initial
  | step action before moved owned => exact owned_of_step owned moved

/-! ## The destructor -/

/-- Distinct open descriptors can be closed one after another. -/
theorem closeAll_ok {opened : Fd → Option Endpoint} {sockets : List Fd} (nodup : sockets.Nodup)
    (all_open : ∀ fd ∈ sockets, opened fd ≠ none) :
    ∃ rest, closeAll opened sockets = .ok rest ∧
      ∀ fd, rest fd = if fd ∈ sockets then none else opened fd := by
  induction sockets generalizing opened with
  | nil => exact ⟨opened, rfl, by simp⟩
  | cons fd sockets ih =>
      obtain ⟨absent, nodup⟩ := List.nodup_cons.mp nodup
      have still_open : ∀ other ∈ sockets, Function.update opened fd none other ≠ none := by
        intro other member
        have ne : other ≠ fd := by
          rintro rfl
          exact absent member
        rw [Function.update_of_ne ne]
        exact all_open other (List.mem_cons_of_mem _ member)
      obtain ⟨rest, closed, rest_eq⟩ := ih nodup still_open
      refine ⟨rest, ?_, ?_⟩
      · simp only [closeAll]
        rw [if_neg (all_open fd List.mem_cons_self)]
        exact closed
      · intro other
        rw [rest_eq other]
        by_cases same : other = fd
        · subst same
          simp
        · simp [same]

/-- The buckets share no socket. -/
theorem nodup_flatMap_entries {state : State} (owned : Owned state)
    {order : List (Σ _ : Bytes, List Fd)} (same : order.Perm state.idlePool.entries) :
    (order.flatMap Sigma.snd).Nodup := by
  rw [(same.flatMap_right Sigma.snd).nodup_iff, List.nodup_flatMap]
  have bucket_of_entry : ∀ {entry}, entry ∈ state.idlePool.entries →
      bucket state.idlePool entry.1 = entry.2 := by
    rintro ⟨key, sockets⟩ member
    have found : state.idlePool.lookup key = some sockets := AList.mem_lookup_iff.mpr member
    simp [bucket, found]
  constructor
  · intro entry member
    rw [← bucket_of_entry member]
    exact owned.custody.nodup entry.1
  · have keys : state.idlePool.entries.Pairwise fun left right => left.1 ≠ right.1 :=
      List.pairwise_map.mp state.idlePool.nodupKeys
    refine List.Pairwise.imp_of_mem ?_ keys
    intro left right left_member right_member ne fd in_left in_right
    rw [← bucket_of_entry left_member] at in_left
    rw [← bucket_of_entry right_member] at in_right
    obtain ⟨endpoint, opened, left_key⟩ := owned.custody.shelved in_left
    obtain ⟨other, also_opened, right_key⟩ := owned.custody.shelved in_right
    obtain rfl := Option.some.inj (opened.symm.trans also_opened)
    exact ne (left_key.symm.trans right_key)

theorem held_eq_none_of_not_inProgress {phase : Phase} (finished : ¬ phase.inProgress) :
    phase.held = none := by
  cases phase with
  | finished result => rfl
  | _ => exact absurd trivial finished

/-- With no call in progress the destructor closes every descriptor, each of them once. -/
theorem destroy_ok {state : State} (owned : Owned state)
    (quiet : ∀ id call, state.calls id = some call → ¬ call.phase.inProgress)
    {order : List (Σ _ : Bytes, List Fd)} (same : order.Perm state.idlePool.entries) :
    destroy state order = .ok fun _ => none := by
  have all_open : ∀ fd ∈ order.flatMap Sigma.snd, state.opened fd ≠ none := by
    intro fd member
    obtain ⟨key, shelved⟩ := (mem_flatMap_entries_iff same).mp member
    obtain ⟨endpoint, opened, -⟩ := owned.custody.shelved shelved
    simp [opened]
  obtain ⟨rest, closed, rest_eq⟩ := closeAll_ok (nodup_flatMap_entries owned same) all_open
  have all_closed : rest = fun _ => none := by
    funext fd
    rw [rest_eq fd, ite_eq_left_iff]
    intro absent
    by_contra existing
    rcases owned.custody.accounted existing with ⟨id, holds⟩ | in_bucket
    · obtain ⟨call, current, held⟩ := Option.bind_eq_some_iff.mp holds
      simp [held_eq_none_of_not_inProgress (quiet id call current)] at held
    · exact absent ((mem_flatMap_entries_iff same).mpr in_bucket)
  rw [destroy, closed, all_closed]

/-! ## Whole runs -/

theorem holder_eq_some_iff {state : State} {id : Nat} {fd : Fd} :
    holder state id = some fd ↔ ∃ call, state.calls id = some call ∧ call.phase.inProgress ∧
      call.phase.held = some fd := by
  rw [holder, Option.bind_eq_some_iff]
  constructor
  · rintro ⟨call, current, held⟩
    refine ⟨call, current, ?_, held⟩
    by_contra finished
    simp [held_eq_none_of_not_inProgress finished] at held
  · rintro ⟨call, current, -, held⟩
    exact ⟨call, current, held⟩

/-- In every state of every run a descriptor that is open is held by one call in progress or lies
once in one bucket, the next step uses no closed descriptor, the buckets are bounded, a call holds
a descriptor of its own endpoint only, and the destructor leaves nothing open. -/
theorem descriptors_have_one_owner {strerror : Nat → Bytes} {state : State}
    (run : Run strerror state) :
    (∀ fd, state.opened fd ≠ none →
      ((∃! id, ∃ call, state.calls id = some call ∧ call.phase.inProgress ∧
          call.phase.held = some fd) ∧ ∀ key, fd ∉ bucket state.idlePool key) ∨
        ((∀ id call, state.calls id = some call → call.phase.held ≠ some fd) ∧
          ∃ key, (bucket state.idlePool key).count fd = 1 ∧
            ∀ other, fd ∈ bucket state.idlePool other → other = key)) ∧
      (∀ key, ∀ fd ∈ bucket state.idlePool key, state.opened fd ≠ none) ∧
      (∀ action misuse, step strerror state action ≠ some (.error misuse)) ∧
      (∀ key, (bucket state.idlePool key).length ≤ 8) ∧
      (∀ id call fd, state.calls id = some call → call.phase.held = some fd →
        state.opened fd = some call.endpoint) ∧
      Function.Injective endpointKey ∧
      ((∀ id call, state.calls id = some call → ¬ call.phase.inProgress) →
        ∀ order : List (Σ _ : Bytes, List Fd), order.Perm state.idlePool.entries →
          destroy state order = .ok fun _ => none) := by
  have owned := owned_of_run run
  refine ⟨?_, ?_, ?_, owned.custody.bounded, ?_, endpointKey_injective, ?_⟩
  · intro fd existing
    rcases owned.custody.exactly_one existing with ⟨held, apart⟩ | ⟨unheld, shelved⟩
    · simp only [holder_eq_some_iff] at held
      exact Or.inl ⟨held, apart⟩
    · refine Or.inr ⟨?_, shelved⟩
      intro id call current held
      exact unheld id (by simpa [holder, current] using held)
  · intro key fd member
    obtain ⟨endpoint, opened, -⟩ := owned.custody.shelved member
    simp [opened]
  · intro action misuse moved
    rcases step_cases owned moved with ⟨_, _, same⟩ | ⟨_, _, _, -, -, same⟩
    · cases same
    · cases same
  · intro id call fd current held
    exact opened_of_held owned current held
  · intro quiet order same
    exact destroy_ok owned quiet same

/-- Several steps without misuse. -/
def perform (strerror : Nat → Bytes) (state : State) (actions : List Action) : Option State :=
  actions.foldlM (fun state action => (step strerror state action).bind Except.toOption) state

/-- They continue a run. -/
theorem Run.perform {strerror : Nat → Bytes} {state next : State} (run : Run strerror state)
    {actions : List Action} (performed : perform strerror state actions = some next) :
    Run strerror next := by
  refine holds_of_foldlM (Run strerror) run ?_ performed
  intro state next action before _ unerring
  obtain ⟨result, moved, ok⟩ := Option.bind_eq_some_iff.mp unerring
  cases result with
  | error misuse => cases ok
  | ok reached =>
      obtain rfl := Option.some.inj ok
      exact .step action before moved

/-- A call to a host with a colon in its name opens descriptor 3.  Another call opens descriptor 4,
is answered and files it. -/
def filing : List Action :=
  [.start ⟨text "fe80::1", 80⟩ [1], .move 0 .run, .move 0 (.opened 3),
    .start ⟨text "127.0.0.1", 80⟩ [1], .move 1 .run, .move 1 (.opened 4),
    .move 1 (.converted true), .move 1 (.returned none), .move 1 (.returned none),
    .move 1 (.returned none), .move 1 (.sent (.written 1)),
    .move 1 (.received (.bytes [0, 0, 0, 4])), .move 1 (.received (.bytes [0, 0, 0, 0])),
    .move 1 .run]

/-- A third call takes descriptor 4 out of the pool. -/
def reusing : List Action :=
  [.start ⟨text "127.0.0.1", 80⟩ [2], .move 2 .run]

theorem descriptors_have_one_owner_of_socket :
    ∃ filed reused, Run (fun _ => []) filed ∧ Run (fun _ => []) reused ∧
      (∀ id call, filed.calls id = some call → call.phase.held ≠ some 4) ∧
      (bucket filed.idlePool (text "127.0.0.1:80")).count 4 = 1 ∧
      (∃! id, ∃ call, reused.calls id = some call ∧ call.phase.inProgress ∧
          call.phase.held = some 3) ∧
      ((∃! id, ∃ call, reused.calls id = some call ∧ call.phase.inProgress ∧
          call.phase.held = some 4) ∧ ∀ key, 4 ∉ bucket reused.idlePool key) ∧
      ∀ action misuse, step (fun _ => []) reused action ≠ some (.error misuse) := by
  have performed : ((perform (fun _ => []) {} filing).bind fun filed =>
      (perform (fun _ => []) filed reusing).map fun reused =>
        ((filed.opened 4, bucket filed.idlePool (text "127.0.0.1:80")),
          (reused.opened 3, (reused.calls 0).map fun call => call.phase.held),
          reused.opened 4, (reused.calls 2).map fun call => call.phase.held)) =
      some ((some ⟨text "127.0.0.1", 80⟩, [4]),
        (some ⟨text "fe80::1", 80⟩, some (some 3)),
        some ⟨text "127.0.0.1", 80⟩, some (some 4)) := by
    decide +kernel
  simp only [Option.bind_eq_some_iff, Option.map_eq_some_iff, Prod.mk.injEq] at performed
  obtain ⟨filed, filing_run, reused, reusing_run, ⟨open_filed, filed_bucket⟩,
    ⟨open_three, first, first_current, first_held⟩, open_four, third, third_current,
    third_held⟩ := performed
  have run := Run.initial.perform filing_run
  have later := run.perform reusing_run
  obtain ⟨places, -⟩ := descriptors_have_one_owner run
  obtain ⟨later_places, -, safe, -⟩ := descriptors_have_one_owner later
  refine ⟨filed, reused, run, later, ?_, by rw [filed_bucket]; rfl, ?_, ?_, safe⟩
  · rcases places 4 (by simp [open_filed]) with ⟨-, apart⟩ | ⟨unheld, -⟩
    · exact absurd (by simp [filed_bucket]) (apart (text "127.0.0.1:80"))
    · exact unheld
  · rcases later_places 3 (by simp [open_three]) with ⟨held, -⟩ | ⟨unheld, -⟩
    · exact held
    · exact absurd first_held (unheld 0 first first_current)
  · rcases later_places 4 (by simp [open_four]) with owned | ⟨unheld, -⟩
    · exact owned
    · exact absurd third_held (unheld 2 third third_current)

end Descriptors

end TcpClientTransport

end Hxrpc
