import Hxrpc.Async.Runtime

/-!
# Waits that stay armed

The table of the runtime is keyed by token and the interest list of the kernel by descriptor.  As
long as no wait is registered for a descriptor that another entry of the table waits for, the two
agree; the first such registration takes the descriptor away from one of the two waits.
-/

namespace Hxrpc

open Epoll

namespace AsyncRuntime

/-- Each entry of the table whose event is not on its way has its own entry in the interest list,
which is enabled. -/
def Armed (state : State) : Prop :=
  ∀ item ∈ state.registered, item.token ∉ state.point.harvested →
    state.epoll item.fd = some ⟨item.token, item.events ||| EPOLLONESHOT, true⟩

/-- What is registered has a token other than that of the wake descriptor and a descriptor that no
other entry of the table waits for. -/
def Exclusive (state : State) : Action → Prop
  | .register false =>
      ∀ registration, state.point.held.head? = some registration → registration.token ≠ 0 ∧
        ∀ item ∈ state.registered, item.fd = registration.fd → item.token = registration.token
  | _ => True

/-! ## The entries that remain -/

theorem lookup_erase_eq_some_iff {registrations : AList fun _ : UInt64 => WaitRegistration}
    {token other : UInt64} {item : WaitRegistration} :
    (registrations.erase token).lookup other = some item ↔
      other ≠ token ∧ registrations.lookup other = some item := by
  rcases eq_or_ne other token with rfl | ne
  · simp
  · rw [AList.lookup_erase_ne ne]
    simp [ne]

theorem lookup_expire_eq_some_iff {state : State} {now : Int} {order : List WaitRegistration}
    {token : UInt64} {item : WaitRegistration} :
    (state.expire now order).registrations.lookup token = some item ↔
      state.registrations.lookup token = some item ∧ ¬ item.deadline ≤ now := by
  rw [← Option.mem_def, ← Option.mem_def, AList.mem_lookup_iff, AList.mem_lookup_iff]
  simp [State.expire]

theorem foldl_ctlDel_of_forall_ne {items : List WaitRegistration} {fd : Int}
    (others : ∀ item ∈ items, fd ≠ item.fd) (interests : InterestList) :
    items.foldl (fun interests item => ctlDel interests item.fd) interests fd = interests fd := by
  induction items generalizing interests with
  | nil => rfl
  | cons item rest ih =>
      rw [List.forall_mem_cons] at others
      rw [List.foldl_cons, ih others.2, ctlDel_of_ne others.1]

/-! ## The invariant -/

/-- The entries stand under their tokens and are armed, each has a descriptor of its own, and the
descriptor of a registration that was taken out is not among them. -/
structure Separate (state : State) : Prop where
  keyed : ∀ {token item}, state.registrations.lookup token = some item → item.token = token
  armed : Armed state
  wakeless : state.registrations.lookup 0 = none
  distinct : ∀ {left right item other}, state.registrations.lookup left = some item →
    state.registrations.lookup right = some other → item.fd = other.fd → left = right
  parted : ∀ {registration events}, state.point = .resuming registration events →
    ∀ {token item}, state.registrations.lookup token = some item → item.fd ≠ registration.fd

variable {state : State}

theorem separate_initial (wakeFd : Int) : Separate (initial wakeFd) where
  keyed := by
    intro token item found
    cases found
  armed := by
    intro item member
    cases member
  wakeless := rfl
  distinct := by
    intro left right item other found
    cases found
  parted := by
    intro registration events resuming
    cases resuming

/-- Entries are only taken out, and those that remain keep their entries in the interest list. -/
theorem Separate.of_remaining (separate : Separate state) {next : State}
    (remaining : ∀ token item, next.registrations.lookup token = some item →
      state.registrations.lookup token = some item)
    (kept : ∀ item, next.registrations.lookup item.token = some item →
      item.token ∉ next.point.harvested →
        item.token ∉ state.point.harvested ∧ next.epoll item.fd = state.epoll item.fd)
    (parted : ∀ registration events, next.point = .resuming registration events →
      ∀ token item, next.registrations.lookup token = some item → item.fd ≠ registration.fd) :
    Separate next where
  keyed := fun found => separate.keyed (remaining _ _ found)
  armed := by
    intro item member waiting
    obtain ⟨token, found⟩ := mem_registered_iff.mp member
    have before := remaining token item found
    obtain rfl := separate.keyed before
    obtain ⟨unseen, same⟩ := kept item found waiting
    exact same.trans (separate.armed item (mem_registered_iff.mpr ⟨_, before⟩) unseen)
  wakeless := by
    rw [Option.eq_none_iff_forall_ne_some]
    intro item found
    have before := remaining 0 item found
    rw [separate.wakeless] at before
    cases before
  distinct := fun left_found right_found =>
    separate.distinct (remaining _ _ left_found) (remaining _ _ right_found)
  parted := fun resuming _ _ found => parted _ _ resuming _ _ found

/-- Only what the invariant does not look at changes. -/
theorem Separate.of_same (separate : Separate state) {next : State}
    (registrations : next.registrations = state.registrations) (epoll : next.epoll = state.epoll)
    (harvested : next.point.harvested = state.point.harvested)
    (idle : ∀ registration events, next.point = .resuming registration events →
      state.point = .resuming registration events) : Separate next := by
  apply separate.of_remaining
  · exact fun _ _ found => registrations ▸ found
  · exact fun _ _ waiting => ⟨harvested ▸ waiting, congrFun epoll _⟩
  · exact fun _ _ resuming _ _ found =>
      separate.parted (idle _ _ resuming) (registrations ▸ found)

/-- The loop goes on, without a registration that it took out. -/
theorem Separate.setPoint (separate : Separate state) {point : Point}
    (harvested : point.harvested = state.point.harvested)
    (idle : ∀ registration events, point ≠ .resuming registration events) :
    Separate { state with point := point } :=
  separate.of_same rfl rfl harvested fun _ _ resuming => absurd resuming (idle _ _)

theorem Separate.resumeReady (separate : Separate state) (registration : WaitRegistration)
    (timedOut : Bool) : Separate (state.resumeReady registration timedOut) := by
  obtain ⟨_, _, resumed, -⟩ := state.resumeReady_eq registration timedOut
  rw [resumed]
  exact separate.of_same rfl rfl rfl fun _ _ resuming => resuming

theorem Separate.cancel (separate : Separate state) (token : UInt64) :
    Separate (state.cancel token) := by
  obtain ⟨_, _, epoll, registrations, cancelled, -, -, table⟩ := state.cancel_eq token
  rw [cancelled]
  rcases table with ⟨-, rfl, rfl⟩ | ⟨registration, found, rfl, rfl⟩
  · exact separate.of_same rfl rfl rfl fun _ _ resuming => resuming
  apply separate.of_remaining
  · exact fun _ _ left => (lookup_erase_eq_some_iff.mp left).2
  · intro item left waiting
    obtain ⟨ne, before⟩ := lookup_erase_eq_some_iff.mp left
    exact ⟨waiting, ctlDel_of_ne fun same => ne (separate.distinct before found same)⟩
  · exact fun _ _ resuming _ _ left =>
      separate.parted resuming (lookup_erase_eq_some_iff.mp left).2

theorem Separate.destroy (separate : Separate state) (id : Nat) : Separate (state.destroy id) := by
  have marked : Separate (state.markCancelled id) :=
    separate.of_same rfl rfl rfl fun _ _ resuming => resuming
  simp only [State.destroy]
  split
  · exact marked.cancel _
  · exact marked

/-- A registration for a descriptor of its own arms it and disarms nobody. -/
theorem Separate.registerItem (separate : Separate state) {registration : WaitRegistration}
    (idle : ∀ other events, state.point ≠ .resuming other events)
    (ne_zero : registration.token ≠ 0)
    (alone : ∀ item ∈ state.registered, item.fd = registration.fd →
      item.token = registration.token) :
    Separate (state.registerItem registration false) := by
  rw [State.registerItem_granted]
  have found_iff : ∀ {token item},
      (state.registrations.insert registration.token registration).lookup token = some item →
        token = registration.token ∧ item = registration ∨
          token ≠ registration.token ∧ state.registrations.lookup token = some item ∧
            item.fd ≠ registration.fd := by
    intro token item found
    rcases eq_or_ne token registration.token with rfl | ne
    · rw [AList.lookup_insert] at found
      exact Or.inl ⟨rfl, (Option.some.inj found).symm⟩
    · rw [AList.lookup_insert_ne ne] at found
      refine Or.inr ⟨ne, found, fun clash => ne ?_⟩
      rw [← separate.keyed found]
      exact alone item (mem_registered_iff.mpr ⟨token, found⟩) clash
  constructor
  · intro token item found
    rcases found_iff found with ⟨rfl, rfl⟩ | ⟨-, before, -⟩
    · rfl
    · exact separate.keyed before
  · intro item member waiting
    obtain ⟨token, found⟩ := mem_registered_iff.mp member
    rcases found_iff found with ⟨-, rfl⟩ | ⟨-, before, ne⟩
    · exact Function.update_self _ _ _
    · exact (Function.update_of_ne ne _ _).trans
        (separate.armed item (mem_registered_iff.mpr ⟨token, before⟩) waiting)
  · rw [AList.lookup_insert_ne ne_zero.symm]
    exact separate.wakeless
  · intro left right item other left_found right_found same
    rcases found_iff left_found with ⟨rfl, rfl⟩ | ⟨-, left_before, left_ne⟩
    · rcases found_iff right_found with ⟨rfl, -⟩ | ⟨-, -, right_ne⟩
      · rfl
      · exact absurd same.symm right_ne
    · rcases found_iff right_found with ⟨rfl, rfl⟩ | ⟨-, right_before, -⟩
      · exact absurd same left_ne
      · exact separate.distinct left_before right_before same
  · intro other events resuming
    exact absurd resuming (idle other events)

theorem Separate.harvest (separate : Separate state) {ready : List Int}
    (before : state.point = .registering []) :
    Separate { state with
      point := .dispatching [] (tokensOf state.epoll ready)
      epoll := deliver state.epoll ready } := by
  apply separate.of_remaining
  · exact fun _ _ found => found
  · intro item found quiet
    have unseen : item.token ∉ state.point.harvested := by simp [before, Point.harvested]
    refine ⟨unseen, deliver_of_notMem fun member => quiet ?_⟩
    exact token_mem_tokensOf member
      (separate.armed item (mem_registered_iff.mpr ⟨_, found⟩) unseen)
  · exact fun _ _ resuming => by cases resuming

theorem Separate.dispatch (separate : Separate state) {token : UInt64} {events : List UInt64}
    (before : state.point = .dispatching [] (token :: events)) :
    Separate (state.dispatch token events) := by
  have unseen : ∀ {other : UInt64}, other ≠ token → other ∉ events →
      other ∉ state.point.harvested := by
    intro other ne absent
    simp [before, Point.harvested, ne, absent]
  simp only [State.dispatch]
  split
  · rename_i zero
    subst zero
    apply separate.of_remaining
    · exact fun _ _ found => found
    · intro item found absent
      refine ⟨unseen ?_ absent, rfl⟩
      intro clash
      rw [clash, separate.wakeless] at found
      cases found
    · exact fun _ _ resuming => by cases resuming
  · cases lookup : state.registrations.lookup token with
    | none =>
        apply separate.of_remaining
        · exact fun _ _ found => found
        · intro item found absent
          refine ⟨unseen ?_ absent, rfl⟩
          intro clash
          rw [clash, lookup] at found
          cases found
        · exact fun _ _ resuming => by cases resuming
    | some registration =>
        apply separate.of_remaining
        · exact fun _ _ found => (lookup_erase_eq_some_iff.mp found).2
        · intro item found absent
          exact ⟨unseen (lookup_erase_eq_some_iff.mp found).1 absent, rfl⟩
        · intro taken rest resuming other item found same
          cases resuming
          obtain ⟨ne, found⟩ := lookup_erase_eq_some_iff.mp found
          exact ne (separate.distinct found lookup same)

theorem Separate.finishDispatch (separate : Separate state) {registration : WaitRegistration}
    {events : List UInt64} (before : state.point = .resuming registration events) :
    Separate { state with
      point := .dispatching [] events
      epoll := ctlDel state.epoll registration.fd } := by
  apply separate.of_remaining
  · exact fun _ _ found => found
  · intro item found absent
    refine ⟨by simpa [before, Point.harvested] using absent, ?_⟩
    exact ctlDel_of_ne (separate.parted before found)
  · exact fun _ _ resuming => by cases resuming

theorem Separate.expire (separate : Separate state) {now : Int} {order : List WaitRegistration}
    (before : state.point = .dispatching [] []) (same : order.Perm (state.overdue now)) :
    Separate (state.expire now order) := by
  apply separate.of_remaining
  · exact fun _ _ found => (lookup_expire_eq_some_iff.mp found).1
  · intro item found _
    obtain ⟨found, later⟩ := lookup_expire_eq_some_iff.mp found
    refine ⟨by simp [before, Point.harvested], foldl_ctlDel_of_forall_ne ?_ _⟩
    intro other member clash
    obtain ⟨known, due⟩ := List.mem_filter.mp (same.mem_iff.mp member)
    obtain ⟨key, other_found⟩ := mem_registered_iff.mp known
    have keys := separate.distinct found other_found clash
    rw [← keys, found] at other_found
    obtain rfl := Option.some.inj other_found
    exact later (of_decide_eq_true due)
  · exact fun _ _ resuming => by cases resuming

theorem separate_step {next : State} {action : Action} (separate : Separate state)
    (exclusive : Exclusive state action) (moved : step state action = some next) :
    Separate next := by
  cases stepped_of_step moved with
  | suspend awaiter now handle _ =>
      exact separate.of_same rfl rfl rfl fun _ _ resuming => resuming
  | destroy id _ => exact separate.destroy id
  | cancel token => exact separate.cancel token
  | swap before => exact separate.of_same rfl rfl (by rw [before]; rfl) (by simp)
  | @register point registration refused items harvested idle =>
      have behind : Separate { state with point := point } := separate.setPoint harvested idle
      cases refused with
      | true => exact behind.resumeReady registration true
      | false =>
          obtain ⟨ne_zero, alone⟩ := exclusive registration (by rw [items]; rfl)
          exact behind.registerItem idle ne_zero alone
  | harvest ready before _ => exact separate.harvest before
  | waitFails before => exact separate.setPoint (by rw [before]; rfl) (by simp)
  | dispatch before => exact separate.dispatch before
  | finishDispatch before => exact (separate.finishDispatch before).resumeReady _ false
  | expire now before same => exact separate.expire before same
  | resumeExpired before =>
      exact (separate.setPoint (by rw [before]; rfl) (by simp)).resumeReady _ true

theorem separate_of_run {wakeFd : Int} (run : Run wakeFd Exclusive state) : Separate state :=
  run.invariant Separate (separate_initial wakeFd)
    fun separate exclusive moved => separate_step separate exclusive moved

/-! ## Two waits for one descriptor -/

/-- The next item to register is for a descriptor that another entry of the table waits for.  Its
token is not yet on its way, as tokens are new. -/
def Clashes (state : State) : Prop :=
  ∃ registration, state.point.held.head? = some registration ∧
    registration.token ∉ state.point.harvested ∧
    ∃ item ∈ state.registered, item.fd = registration.fd ∧ item.token ≠ registration.token

/-- The second registration takes over the entry of the first; and when the event of the first is on
its way, the end of the first wait takes the entry away from the second. -/
theorem not_armed_of_shared (wakeless : state.registrations.lookup 0 = none)
    {registration item : WaitRegistration} (quiet : registration.token ∉ state.point.harvested)
    (found : state.registrations.lookup item.token = some item)
    (same : item.fd = registration.fd) (ne : item.token ≠ registration.token) :
    ∃ last, Reaches (state.registerItem registration false) last ∧ ¬ Armed last := by
  rw [State.registerItem_granted]
  have still : (state.registrations.insert registration.token registration).lookup item.token =
      some item := (AList.lookup_insert_ne ne).trans found
  by_cases harvested : item.token ∈ state.point.harvested
  · have token_ne : item.token ≠ 0 := by
      intro zero
      rw [zero, wakeless] at found
      cases found
    refine ⟨_, .step (.cancel item.token) .initial trivial rfl, ?_⟩
    obtain ⟨_, _, _, _, cancelled, -, -, table⟩ := State.cancel_eq { state with
      epoll := Function.update state.epoll registration.fd
        (some ⟨registration.token, registration.events ||| EPOLLONESHOT, true⟩)
      registrations := state.registrations.insert registration.token registration } item.token
    rw [cancelled]
    rcases table with ⟨zero | missing, -, -⟩ | ⟨other, other_found, rfl, rfl⟩
    · exact absurd zero token_ne
    · rw [still] at missing
      cases missing
    · obtain rfl := Option.some.inj (still.symm.trans other_found)
      intro armed
      have entry := armed registration (mem_registered_iff.mpr ⟨registration.token,
        lookup_erase_eq_some_iff.mpr ⟨ne.symm, AList.lookup_insert _⟩⟩) quiet
      simp only [same, ctlDel_self] at entry
      cases entry
  · refine ⟨_, .initial, ?_⟩
    intro armed
    have entry := armed item (mem_registered_iff.mpr ⟨item.token, still⟩) harvested
    simp only [same, Function.update_self, Option.some.injEq, Interest.mk.injEq] at entry
    exact ne entry.1.symm

theorem not_armed_of_clashes (separate : Separate state) {next : State}
    (clashes : Clashes state) (moved : step state (.register false) = some next) :
    ∃ last, Reaches next last ∧ ¬ Armed last := by
  obtain ⟨registration, first, quiet, item, member, same, ne⟩ := clashes
  obtain ⟨token, found⟩ := mem_registered_iff.mp member
  obtain rfl := separate.keyed found
  cases stepped_of_step moved with
  | register _ items harvested idle =>
      rw [items] at first
      cases first
      exact not_armed_of_shared (by exact separate.wakeless) (by exact harvested ▸ quiet) found same
        ne

/-! ## Every run -/

/-- As long as every wait is registered for a descriptor that no other entry waits for, every entry
stays armed until its event is on its way; a registration for the descriptor of another entry leads
to an entry that is not armed. -/
theorem armed_of_run {wakeFd : Int} (run : Run wakeFd Exclusive state) :
    Armed state ∧ ∀ next, Clashes state → step state (.register false) = some next →
      ∃ last, Reaches next last ∧ ¬ Armed last :=
  ⟨(separate_of_run run).armed, fun _ => not_armed_of_clashes (separate_of_run run)⟩

/-- A coroutine that waits for the socket 5 to become readable. -/
def receiver : FdAwaiter := { fd := 5, events := EPOLLIN, timeoutMs := 1000, state := 0 }

/-- A coroutine that waits for the same socket to become writable. -/
def sender : FdAwaiter := { fd := 5, events := EPOLLOUT, timeoutMs := 1000, state := 1 }

/-- The sender waits once the receiver is done. -/
theorem armed_inTurn :
    ∃ state, Run 3 Exclusive state ∧ state.registered.length = 1 ∧ Armed state := by
  have waiting : Run 3 Exclusive _ := .step (.suspend receiver 0 1) .initial trivial rfl
  have swapped := GuardedRun.step Action.swap waiting trivial rfl
  have registered := GuardedRun.step (Action.register false) swapped
    (by rintro registration ⟨⟩; exact ⟨by decide, fun _ member => by cases member⟩) rfl
  have harvested := GuardedRun.step (Action.harvest [5]) registered trivial rfl
  have dispatched := GuardedRun.step Action.dispatch harvested trivial rfl
  have finished := GuardedRun.step Action.finishDispatch dispatched trivial rfl
  have expired := GuardedRun.step (Action.expire 1 []) finished trivial rfl
  have sending := GuardedRun.step (Action.suspend sender 1 2) expired trivial rfl
  have again := GuardedRun.step Action.swap sending trivial rfl
  have last := GuardedRun.step (Action.register false) again
    (by rintro registration ⟨⟩; exact ⟨by decide, fun _ member => by cases member⟩) rfl
  exact ⟨_, last, rfl, (armed_of_run last).1⟩

/-- Both wait for the socket: the receiver is in the table, but the kernel only knows the sender. -/
theorem not_armed_receiver : ¬ ∀ state, Run 3 (fun _ _ => True) state → Armed state := by
  intro armed
  have waiting : Run 3 (fun _ _ => True) _ := .step (.suspend receiver 0 1) .initial trivial rfl
  have both := GuardedRun.step (.suspend sender 0 2) waiting trivial rfl
  have swapped := GuardedRun.step .swap both trivial rfl
  have registered := GuardedRun.step (.register false) swapped trivial rfl
  have overwritten := GuardedRun.step (.register false) registered trivial rfl
  have quiet : (1 : UInt64) ∉ ([] : List UInt64) := List.not_mem_nil
  cases armed _ overwritten _ (List.mem_cons_of_mem _ List.mem_cons_self) quiet

end AsyncRuntime

end Hxrpc
