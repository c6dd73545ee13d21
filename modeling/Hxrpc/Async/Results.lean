import Hxrpc.Async.Waits

/-!
# What a wait answers

A coroutine that is resumed learns from `await_resume` whether its descriptor was ready.  A run is
observed together with what the kernel and the clock told the loop.  The answer is true only if
`epoll_wait` has returned the descriptor of the wait, under the token and with the events that were
registered for this wait, and false only if the deadline of the wait had passed when the loop looked
at the clock or the kernel refused to register it.
-/

namespace Hxrpc

open Epoll

namespace AsyncRuntime

/-- A state with what was seen on the way to it; what came last is first. -/
structure History where
  /-- The state. -/
  state : State
  /-- The waits that were enqueued. -/
  issued : List WaitRegistration := []
  /-- The descriptors that `epoll_wait` returned, with their entries at that time. -/
  returned : List (Int × Interest) := []
  /-- The times at which `ExpireTimedOut` looked for deadlines. -/
  checked : List Int := []
  /-- The items that the kernel refused. -/
  refused : List WaitRegistration := []
  /-- The resumed waits with what `await_resume` returned to them. -/
  answers : List (WaitRegistration × Bool) := []

/-- The wait that an action enqueues. -/
def issuedBy (state : State) : Action → List WaitRegistration
  | .suspend awaiter now handle =>
      [{ awaitSuspend awaiter now handle with
        token := state.nextToken, number := state.enqueued }]
  | _ => []

/-- What `epoll_wait` returns. -/
def returnedBy (state : State) : Action → List (Int × Interest)
  | .harvest ready => ready.filterMap fun fd => (state.epoll fd).map fun interest => (fd, interest)
  | _ => []

/-- When deadlines are checked. -/
def checkedBy : Action → List Int
  | .expire now _ => [now]
  | _ => []

/-- The item that the kernel refuses. -/
def refusedBy (state : State) : Action → List WaitRegistration
  | .register true => state.point.held.head?.toList
  | _ => []

/-- The waits that a step resumes, each with the result of `await_resume`. -/
def answersOf (state next : State) : List (WaitRegistration × Bool) :=
  (next.resumptions.drop state.resumptions.length).map fun registration =>
    (registration, !(next.waits registration.state).timedOut)

/-- A step that is observed. -/
def observe (history : History) (action : Action) (next : State) : History where
  state := next
  issued := issuedBy history.state action ++ history.issued
  returned := returnedBy history.state action ++ history.returned
  checked := checkedBy action ++ history.checked
  refused := refusedBy history.state action ++ history.refused
  answers := answersOf history.state next ++ history.answers

/-- The histories of all runs. -/
abbrev Observed (wakeFd : Int) : History → Prop :=
  GuardedRun (fun history action next => step history.state action = some next.state ∧
    next = observe history action next.state) (fun _ _ => True) { state := initial wakeFd }

/-- `epoll_wait` has returned the descriptor of a wait, as it was registered for this wait. -/
def Reported (history : History) (wait : WaitRegistration) : Prop :=
  (wait.fd, ⟨wait.token, wait.events ||| EPOLLONESHOT, true⟩) ∈ history.returned

/-- The deadline of a wait had passed at a check. -/
def Overdue (history : History) (wait : WaitRegistration) : Prop :=
  ∃ now ∈ history.checked, wait.deadline ≤ now

/-- The entry was registered for an enqueued wait. -/
def Owned (history : History) (fd : Int) (interest : Interest) : Prop :=
  ∃ item ∈ history.issued, item.token = interest.token ∧ item.fd = fd ∧
    interest.events = item.events ||| EPOLLONESHOT

/-! ## The waits that were enqueued -/

/-- Waits are numbered, and tokens follow the numbers. -/
structure Issued (history : History) : Prop where
  ledger : Ledger WaitRegistration.number history.state.enqueued history.issued
  next : history.state.nextToken = UInt64.ofNat (history.state.enqueued + 1)
  tokens : ∀ item ∈ history.issued, item.token = UInt64.ofNat (item.number + 1)
  filed : ∀ item ∈ history.state.accounted, item ∈ history.issued

variable {wakeFd : Int} {history : History} {action : Action} {next : State}

theorem issuedBy_of_ne (state : State)
    (old : ∀ awaiter now handle, action ≠ .suspend awaiter now handle) :
    issuedBy state action = [] := by
  cases action with
  | suspend awaiter now handle => exact absurd rfl (old awaiter now handle)
  | _ => rfl

theorem issued_initial (wakeFd : Int) : Issued { state := initial wakeFd } where
  ledger := Ledger.nil _
  next := rfl
  tokens item member := by cases member
  filed item member := by cases member

theorem issued_of_moves (issued : Issued history) (moves : Moves history.state next)
    (old : ∀ awaiter now handle, action ≠ .suspend awaiter now handle) :
    Issued (observe history action next) := by
  have same : (observe history action next).issued = history.issued := by
    rw [observe, issuedBy_of_ne history.state old]
    rfl
  refine ⟨?_, ?_, ?_, ?_⟩
  · rw [same]
    exact moves.enqueued ▸ issued.ledger
  · exact moves.nextToken.trans (moves.enqueued ▸ issued.next)
  · rw [same]
    exact issued.tokens
  · intro item member
    have present := List.count_pos_iff.mpr member
    have before := moves.moved item
    rw [same]
    exact issued.filed item (List.count_pos_iff.mp (Nat.lt_of_lt_of_le present before))

theorem issued_enqueue (issued : Issued history) (awaiter : FdAwaiter) (now : Int) (handle : Nat) :
    Issued (observe history (.suspend awaiter now handle)
      (history.state.enqueue (awaitSuspend awaiter now handle))) := by
  refine ⟨issued.ledger.issue rfl, ?_, ?_, ?_⟩
  · have bumped := congrArg (· + 1) issued.next
    simpa [observe, State.enqueue] using bumped
  · intro item member
    rcases List.mem_cons.mp member with rfl | member
    · exact issued.next
    · exact issued.tokens item member
  · intro item member
    simp only [observe, State.accounted, State.inFlight, State.enqueue, List.mem_append,
      List.mem_singleton] at member
    rcases member with resumed | ((pending | rfl) | held) | registered
    · exact List.mem_cons_of_mem _ (issued.filed item (List.mem_append_left _ resumed))
    · exact List.mem_cons_of_mem _
        (issued.filed item (by simp [State.accounted, State.inFlight, pending]))
    · exact List.mem_cons_self
    · exact List.mem_cons_of_mem _
        (issued.filed item (by simp [State.accounted, State.inFlight, held]))
    · refine List.mem_cons_of_mem _ (issued.filed item ?_)
      simp only [State.accounted, State.inFlight, List.mem_append]
      exact Or.inr (Or.inr registered)

theorem issued_step (issued : Issued history) (moved : step history.state action = some next) :
    Issued (observe history action next) := by
  cases action with
  | suspend awaiter now handle =>
      cases stepped_of_step moved
      exact issued_enqueue issued awaiter now handle
  | _ => exact issued_of_moves issued (moves_step moved (by simp)) (by simp)

/-- As long as the tokens have not run out, a token belongs to one wait. -/
theorem Issued.eq_of_token (issued : Issued history)
    (few : history.state.enqueued < 2 ^ 64 - 1) {left right : WaitRegistration}
    (left_member : left ∈ history.issued) (right_member : right ∈ history.issued)
    (same : left.token = right.token) : left = right := by
  have left_below := issued.ledger.below left left_member
  have right_below := issued.ledger.below right right_member
  rw [issued.tokens left left_member, issued.tokens right right_member, ← UInt64.toNat_inj,
    UInt64.toNat_ofNat', UInt64.toNat_ofNat', Nat.mod_eq_of_lt (by omega),
    Nat.mod_eq_of_lt (by omega)] at same
  exact List.inj_on_of_nodup_map issued.ledger.nodup left_member right_member (by omega)

/-! ## Where tokens come from -/

/-- Every token in the kernel or in the loop is that of a wait for the same descriptor. -/
structure Placed (history : History) : Prop where
  keyed : ∀ token item, history.state.registrations.lookup token = some item → item.token = token
  owned : ∀ fd interest, history.state.epoll fd = some interest → interest.token ≠ 0 →
    Owned history fd interest
  returned : ∀ fd interest, (fd, interest) ∈ history.returned → interest.enabled = true ∧
    (interest.token ≠ 0 → Owned history fd interest)
  harvested : ∀ token ∈ history.state.point.harvested,
    ∃ fd interest, (fd, interest) ∈ history.returned ∧ interest.token = token
  dispatched : ∀ registration events, history.state.point = .resuming registration events →
    Reported history registration
  expired : ∀ items, history.state.point = .expiring items → ∀ item ∈ items, Overdue history item

theorem Owned.observe {fd : Int} {interest : Interest} (owned : Owned history fd interest) :
    Owned (observe history action next) fd interest := by
  obtain ⟨item, member, same⟩ := owned
  exact ⟨item, List.mem_append_right _ member, same⟩

theorem Reported.observe {wait : WaitRegistration} (reported : Reported history wait) :
    Reported (observe history action next) wait :=
  List.mem_append_right _ reported

theorem Overdue.observe {wait : WaitRegistration} (overdue : Overdue history wait) :
    Overdue (observe history action next) wait := by
  obtain ⟨now, member, passed⟩ := overdue
  exact ⟨now, List.mem_append_right _ member, passed⟩

theorem placed_initial (wakeFd : Int) : Placed { state := initial wakeFd } where
  keyed token item found := by cases found
  owned fd interest entry ne_zero := by
    simp only [initial, Function.update_apply] at entry
    split_ifs at entry
    obtain rfl := Option.some.inj entry
    exact absurd rfl ne_zero
  returned fd interest member := by cases member
  harvested token member := by cases member
  dispatched registration events before := by cases before
  expired items before item member := by
    cases before
    cases member

/-- Nothing is registered, returned or taken out of the table. -/
structure Quiet (state next : State) : Prop where
  registrations : ∀ token item, next.registrations.lookup token = some item →
    state.registrations.lookup token = some item
  epoll : ∀ fd interest, next.epoll fd = some interest → state.epoll fd = some interest
  harvested : ∀ token ∈ next.point.harvested, token ∈ state.point.harvested
  resuming : ∀ registration events, next.point = .resuming registration events →
    state.point = .resuming registration events
  expiring : ∀ items, next.point = .expiring items → ∀ item ∈ items,
    ∃ others, state.point = .expiring others ∧ item ∈ others

theorem placed_of_quiet (placed : Placed history) (quiet : Quiet history.state next)
    (silent : returnedBy history.state action = []) : Placed (observe history action next) where
  keyed token item found := placed.keyed token item (quiet.registrations token item found)
  owned fd interest entry ne_zero :=
    (placed.owned fd interest (quiet.epoll fd interest entry) ne_zero).observe
  returned fd interest member := by
    rw [observe, silent] at member
    obtain ⟨enabled, owned⟩ := placed.returned fd interest member
    exact ⟨enabled, fun ne_zero => (owned ne_zero).observe⟩
  harvested token member := by
    obtain ⟨fd, interest, returned, same⟩ :=
      placed.harvested token (quiet.harvested token member)
    exact ⟨fd, interest, List.mem_append_right _ returned, same⟩
  dispatched registration events before :=
    (placed.dispatched registration events (quiet.resuming registration events before)).observe
  expired items before item member := by
    obtain ⟨others, before, member⟩ := quiet.expiring items before item member
    exact (placed.expired others before item member).observe

theorem Quiet.resumeReady {state taken : State} (quiet : Quiet state taken)
    (registration : WaitRegistration) (timedOut : Bool) :
    Quiet state (taken.resumeReady registration timedOut) := by
  obtain ⟨waits, log, resumed, -⟩ := taken.resumeReady_eq registration timedOut
  rw [resumed]
  exact ⟨quiet.registrations, quiet.epoll, quiet.harvested, quiet.resuming, quiet.expiring⟩

theorem eq_some_of_ctlDel {interests : InterestList} {fd other : Int} {interest : Interest}
    (entry : ctlDel interests fd other = some interest) : interests other = some interest := by
  rcases eq_or_ne other fd with rfl | ne
  · rw [ctlDel_self] at entry
    cases entry
  · rwa [ctlDel_of_ne ne] at entry

theorem eq_some_of_foldl_ctlDel {items : List WaitRegistration} {interests : InterestList}
    {fd : Int} {interest : Interest}
    (entry : items.foldl (fun interests item => ctlDel interests item.fd) interests fd =
      some interest) : interests fd = some interest := by
  induction items generalizing interests with
  | nil => exact entry
  | cons item items ih => exact eq_some_of_ctlDel (ih entry)

/-- The point of the loop stays. -/
theorem quiet_of_point {state : State} (point : next.point = state.point)
    (registrations : ∀ token item, next.registrations.lookup token = some item →
      state.registrations.lookup token = some item)
    (epoll : ∀ fd interest, next.epoll fd = some interest → state.epoll fd = some interest) :
    Quiet state next where
  registrations := registrations
  epoll := epoll
  harvested _ member := point ▸ member
  resuming _ _ before := point ▸ before
  expiring items before _ member := ⟨items, point ▸ before, member⟩

/-- The loop goes on to dispatch what it has not looked at yet. -/
theorem quiet_of_dispatching {state : State} {items : List WaitRegistration}
    {events : List UInt64} (point : next.point = .dispatching items events)
    (rest : ∀ token ∈ events, token ∈ state.point.harvested)
    (registrations : next.registrations = state.registrations)
    (epoll : ∀ fd interest, next.epoll fd = some interest → state.epoll fd = some interest) :
    Quiet state next where
  registrations _ _ found := registrations ▸ found
  epoll := epoll
  harvested := by
    rw [point]
    exact rest
  resuming registration events before := by
    rw [point] at before
    cases before
  expiring items before := by
    rw [point] at before
    cases before

theorem quiet_cancel (state : State) (token : UInt64) : Quiet state (state.cancel token) := by
  obtain ⟨waits, pending, epoll, registrations, cancelled, -, -, table⟩ := state.cancel_eq token
  rw [cancelled]
  rcases table with ⟨-, rfl, rfl⟩ | ⟨registration, -, rfl, rfl⟩
  · exact quiet_of_point rfl (fun _ _ found => found) fun _ _ entry => entry
  · refine quiet_of_point rfl (fun other _ found => ?_) fun _ _ entry => eq_some_of_ctlDel entry
    rcases eq_or_ne other token with rfl | ne
    · rw [AList.lookup_erase] at found
      cases found
    · rwa [AList.lookup_erase_ne ne] at found

theorem quiet_destroy (state : State) (id : Nat) : Quiet state (state.destroy id) := by
  rw [State.destroy]
  split_ifs
  · have cancelled := quiet_cancel (state.markCancelled id)
      ((state.markCancelled id).waits id).token
    exact ⟨cancelled.registrations, cancelled.epoll, cancelled.harvested, cancelled.resuming,
      cancelled.expiring⟩
  · exact quiet_of_point rfl (fun _ _ found => found) fun _ _ entry => entry

/-- A wait that is registered owns the entry of its descriptor. -/
theorem placed_register (placed : Placed history) (issued : Issued history) {point : Point}
    {registration : WaitRegistration}
    (items : history.state.point.held = registration :: point.held)
    (harvested : point.harvested = history.state.point.harvested)
    (idle : ∀ other events, point ≠ .resuming other events)
    (settled : ∀ others, point ≠ .expiring others) :
    Placed (observe history (.register false)
      ({ history.state with point := point }.registerItem registration false)) := by
  have member : registration ∈ history.issued := by
    apply issued.filed
    simp [State.accounted, State.inFlight, items]
  rw [State.registerItem_granted]
  refine ⟨?_, ?_, ?_, ?_, ?_, ?_⟩
  · intro token item found
    rcases eq_or_ne token registration.token with rfl | ne
    · simp only [observe, AList.lookup_insert] at found
      obtain rfl := Option.some.inj found
      rfl
    · simp only [observe, AList.lookup_insert_ne ne] at found
      exact placed.keyed token item found
  · intro fd interest entry ne_zero
    rcases eq_or_ne fd registration.fd with rfl | ne
    · simp only [observe, Function.update_self] at entry
      obtain rfl := Option.some.inj entry
      exact ⟨registration, member, rfl, rfl, rfl⟩
    · simp only [observe, Function.update_of_ne ne] at entry
      exact (placed.owned fd interest entry ne_zero).observe
  · intro fd interest returned
    obtain ⟨enabled, owned⟩ := placed.returned fd interest returned
    exact ⟨enabled, fun ne_zero => (owned ne_zero).observe⟩
  · intro token inside
    simp only [observe, harvested] at inside
    exact placed.harvested token inside
  · exact fun other events before => absurd before (idle other events)
  · exact fun others before => absurd before (settled others)

theorem eq_of_mem_returnedBy {state : State} {ready : List Int} {entry : Int × Interest}
    (member : entry ∈ returnedBy state (.harvest ready)) :
    entry.1 ∈ ready ∧ state.epoll entry.1 = some entry.2 := by
  obtain ⟨fd, inside, found⟩ := List.mem_filterMap.mp member
  obtain ⟨interest, registered, rfl⟩ := Option.map_eq_some_iff.mp found
  exact ⟨inside, registered⟩

/-- What `epoll_wait` returns was registered for a wait. -/
theorem placed_harvest (placed : Placed history) {ready : List Int}
    (may : MayReturn history.state.epoll maxEvents ready) :
    Placed (observe history (.harvest ready) { history.state with
      point := .dispatching [] (tokensOf history.state.epoll ready)
      epoll := deliver history.state.epoll ready }) where
  keyed := placed.keyed
  owned fd interest entry ne_zero := by
    simp only [observe, deliver] at entry
    split_ifs at entry
    · obtain ⟨before, registered, rfl⟩ := Option.map_eq_some_iff.mp entry
      have kept : before.delivered.token = before.token ∧
          before.delivered.events = before.events := by
        rw [Interest.delivered]
        split_ifs
        · exact ⟨rfl, rfl⟩
        · exact ⟨rfl, rfl⟩
      rw [kept.1] at ne_zero
      obtain ⟨item, member, token, own, mask⟩ := placed.owned fd before registered ne_zero
      exact ⟨item, member, token.trans kept.1.symm, own, kept.2.trans mask⟩
    · exact (placed.owned fd interest entry ne_zero).observe
  returned fd interest member := by
    rcases List.mem_append.mp member with new | old
    · obtain ⟨inside, registered⟩ := eq_of_mem_returnedBy new
      have enabled := may.2.2 fd inside
      rw [registered] at enabled
      exact ⟨enabled, fun ne_zero => (placed.owned fd interest registered ne_zero).observe⟩
    · obtain ⟨enabled, owned⟩ := placed.returned fd interest old
      exact ⟨enabled, fun ne_zero => (owned ne_zero).observe⟩
  harvested token member := by
    obtain ⟨fd, inside, found⟩ := List.mem_filterMap.mp member
    obtain ⟨interest, registered, rfl⟩ := Option.map_eq_some_iff.mp found
    refine ⟨fd, interest, List.mem_append_left _ ?_, rfl⟩
    exact List.mem_filterMap.mpr ⟨fd, inside, by rw [registered]; rfl⟩
  dispatched registration events before := by cases before
  expired items before := by cases before

/-- The registration under a token that was returned is the one that the token was given to. -/
theorem placed_dispatch (placed : Placed history) (issued : Issued history)
    (few : history.state.enqueued < 2 ^ 64 - 1) {token : UInt64} {events : List UInt64}
    (before : history.state.point = .dispatching [] (token :: events)) :
    Placed (observe history .dispatch (history.state.dispatch token events)) := by
  have rest : ∀ other ∈ events, other ∈ history.state.point.harvested := by
    intro other member
    rw [before]
    exact List.mem_cons_of_mem token member
  rw [State.dispatch]
  split_ifs with wake
  · exact placed_of_quiet placed (quiet_of_dispatching rfl rest rfl fun _ _ entry => entry) rfl
  · cases found : history.state.registrations.lookup token with
    | none =>
        exact placed_of_quiet placed (quiet_of_dispatching rfl rest rfl fun _ _ entry => entry) rfl
    | some registration =>
        have own : registration.token = token := placed.keyed token registration found
        have filed : registration ∈ history.issued := by
          apply issued.filed
          have member := mem_registered_iff.mpr ⟨token, found⟩
          simp [State.accounted, State.inFlight, member]
        have reported : Reported history registration := by
          obtain ⟨fd, interest, returned, same⟩ := placed.harvested token
            (by rw [before]; exact List.mem_cons_self)
          obtain ⟨enabled, owned⟩ := placed.returned fd interest returned
          obtain ⟨item, member, item_token, rfl, mask⟩ := owned (same ▸ wake)
          obtain rfl := issued.eq_of_token few member filed
            (item_token.trans (same.trans own.symm))
          obtain ⟨own_token, own_events, own_enabled⟩ := interest
          simp only at item_token mask enabled
          subst item_token mask enabled
          exact returned
        refine ⟨fun other item remaining => ?_, fun fd interest entry ne_zero =>
          (placed.owned fd interest entry ne_zero).observe, fun fd interest member => ?_,
          fun other member => placed.harvested other (rest other member), ?_,
          fun items expiring => by cases expiring⟩
        · rcases eq_or_ne other token with rfl | ne
          · simp only [observe, AList.lookup_erase, reduceCtorEq] at remaining
          · simp only [observe, AList.lookup_erase_ne ne] at remaining
            exact placed.keyed other item remaining
        · obtain ⟨enabled, owned⟩ := placed.returned fd interest member
          exact ⟨enabled, fun ne_zero => (owned ne_zero).observe⟩
        · intro other events resuming
          obtain ⟨rfl, -⟩ := Point.resuming.inj resuming
          exact reported.observe

theorem placed_expire (placed : Placed history) {now : Int} {order : List WaitRegistration}
    (same : order.Perm (history.state.overdue now)) :
    Placed (observe history (.expire now order) (history.state.expire now order)) where
  keyed token item found := by
    have member := AList.mem_lookup_iff.mp found
    simp only [observe, State.expire, List.mem_filter] at member
    exact placed.keyed token item (AList.mem_lookup_iff.mpr member.1)
  owned fd interest entry ne_zero :=
    (placed.owned fd interest (eq_some_of_foldl_ctlDel entry) ne_zero).observe
  returned fd interest member := by
    obtain ⟨enabled, owned⟩ := placed.returned fd interest member
    exact ⟨enabled, fun ne_zero => (owned ne_zero).observe⟩
  harvested token member := by cases member
  dispatched registration events before := by cases before
  expired items before item member := by
    obtain rfl := Point.expiring.inj before
    have passed := (List.mem_filter.mp (same.subset member)).2
    exact ⟨now, List.mem_append_left _ List.mem_cons_self, of_decide_eq_true passed⟩

/-- The loop goes on with other items, outside of `ExpireTimedOut`. -/
theorem quiet_of_items {state : State} {point : Point}
    (harvested : point.harvested = state.point.harvested)
    (idle : ∀ other events, point ≠ .resuming other events)
    (settled : ∀ others, point ≠ .expiring others) : Quiet state { state with point := point } where
  registrations _ _ found := found
  epoll _ _ entry := entry
  harvested _ member := harvested ▸ member
  resuming other events before := absurd before (idle other events)
  expiring others before := absurd before (settled others)

theorem placed_registerItem (placed : Placed history) (issued : Issued history) {point : Point}
    {registration : WaitRegistration} (refused : Bool)
    (items : history.state.point.held = registration :: point.held)
    (harvested : point.harvested = history.state.point.harvested)
    (idle : ∀ other events, point ≠ .resuming other events)
    (settled : ∀ others, point ≠ .expiring others) :
    Placed (observe history (.register refused)
      ({ history.state with point := point }.registerItem registration refused)) := by
  cases refused with
  | true =>
      rw [State.registerItem_refused]
      exact placed_of_quiet placed
        ((quiet_of_items harvested idle settled).resumeReady registration true) rfl
  | false => exact placed_register placed issued items harvested idle settled

/-- Each step keeps tokens where they belong. -/
theorem placed_step (placed : Placed history) (issued : Issued history)
    (few : history.state.enqueued < 2 ^ 64 - 1)
    (moved : step history.state action = some next) : Placed (observe history action next) := by
  cases action with
  | suspend awaiter now handle =>
      cases stepped_of_step moved
      exact placed_of_quiet placed
        (quiet_of_point rfl (fun _ _ found => found) fun _ _ entry => entry) rfl
  | destroy id =>
      cases stepped_of_step moved
      exact placed_of_quiet placed (quiet_destroy _ id) rfl
  | cancel token =>
      cases stepped_of_step moved
      exact placed_of_quiet placed (quiet_cancel _ token) rfl
  | swap =>
      cases stepped_of_step moved
      refine placed_of_quiet placed ⟨fun _ _ found => found, fun _ _ entry => entry, ?_, ?_, ?_⟩ rfl
      · exact fun token member => by cases member
      · exact fun registration events resuming => by cases resuming
      · exact fun items expiring => by cases expiring
  | register refused =>
      simp only [step] at moved
      split at moved
      · rename_i registration rest before
        obtain rfl := Option.some.inj moved
        exact placed_registerItem placed issued refused (by rw [before]; rfl) (by rw [before]; rfl)
          (by simp) (by simp)
      · rename_i registration rest events before
        obtain rfl := Option.some.inj moved
        exact placed_registerItem placed issued refused (by rw [before]; rfl) (by rw [before]; rfl)
          (by simp) (by simp)
      · cases moved
  | harvest ready =>
      cases stepped_of_step moved with
      | harvest _ before may => exact placed_harvest placed may
  | waitFails =>
      cases stepped_of_step moved
      refine placed_of_quiet placed ⟨fun _ _ found => found, fun _ _ entry => entry, ?_, ?_, ?_⟩ rfl
      · exact fun token member => by cases member
      · exact fun registration events resuming => by cases resuming
      · intro items expiring item member
        obtain rfl := Point.expiring.inj expiring
        cases member
  | dispatch =>
      cases stepped_of_step moved with
      | dispatch before => exact placed_dispatch placed issued few before
  | finishDispatch =>
      cases stepped_of_step moved with
      | @finishDispatch registration events before =>
          have quiet : Quiet history.state { history.state with
              point := .dispatching [] events
              epoll := ctlDel history.state.epoll registration.fd } := by
            refine quiet_of_dispatching rfl ?_ rfl fun _ _ entry => eq_some_of_ctlDel entry
            rw [before]
            exact fun token member => member
          exact placed_of_quiet placed (quiet.resumeReady registration false) rfl
  | expire now order =>
      cases stepped_of_step moved with
      | expire _ before same => exact placed_expire placed same
  | resumeExpired =>
      cases stepped_of_step moved with
      | @resumeExpired registration rest before =>
          have quiet : Quiet history.state { history.state with point := .expiring rest } := by
            refine ⟨fun _ _ found => found, fun _ _ entry => entry, ?_, ?_, ?_⟩
            · exact fun token member => by cases member
            · exact fun registration events resuming => by cases resuming
            · intro items expiring item member
              obtain rfl := Point.expiring.inj expiring
              exact ⟨_, before, List.mem_cons_of_mem registration member⟩
          exact placed_of_quiet placed (quiet.resumeReady registration true) rfl

/-! ## Answers -/

/-- The answer tells what happened to the wait. -/
def Justified (history : History) (answer : WaitRegistration × Bool) : Prop :=
  if answer.2 then Reported history answer.1
  else answer.1 ∈ history.refused ∨ Overdue history answer.1

theorem Justified.observe {answer : WaitRegistration × Bool}
    (justified : Justified history answer) :
    Justified (observe history action next) answer := by
  rw [Justified] at justified ⊢
  split_ifs at justified ⊢
  · exact Reported.observe justified
  · rcases justified with refused | overdue
    · exact Or.inl (List.mem_append_right _ refused)
    · exact Or.inr overdue.observe

theorem answersOf_of_resumptions {state : State} (same : next.resumptions = state.resumptions) :
    answersOf state next = [] := by
  rw [answersOf, same, List.drop_length, List.map_nil]

/-- `ResumeReady` makes `await_resume` return whether the wait did not time out. -/
theorem mem_answersOf_resumeReady {state taken : State} (log : taken.log = state.log)
    {registration : WaitRegistration} {timedOut : Bool} {answer : WaitRegistration × Bool}
    (member : answer ∈ answersOf state (taken.resumeReady registration timedOut)) :
    answer = (registration, !timedOut) := by
  rw [State.resumeReady] at member
  split_ifs at member with gone
  · rw [answersOf_of_resumptions (by simp only [State.resumptions, log])] at member
    cases member
  · simp only [answersOf, State.resumptions, log, List.filterMap_append, List.drop_left,
      List.filterMap_cons, List.filterMap_nil, Event.resumption, List.map_cons, List.map_nil,
      List.mem_singleton, Function.update_self] at member
    exact member

theorem answersOf_destroy (state : State) (id : Nat) : answersOf state (state.destroy id) = [] := by
  apply answersOf_of_resumptions
  have marked : (state.markCancelled id).resumptions = state.resumptions := by
    simp [State.markCancelled, State.resumptions, Event.resumption]
  rw [State.destroy]
  split_ifs
  · obtain ⟨waits, pending, epoll, registrations, cancelled, -⟩ :=
      (state.markCancelled id).cancel_eq ((state.markCancelled id).waits id).token
    rw [cancelled]
    exact marked
  · exact marked

/-- What a step answers is justified by what was seen. -/
theorem justified_step (placed : Placed history) (moved : step history.state action = some next)
    {answer : WaitRegistration × Bool} (member : answer ∈ answersOf history.state next) :
    Justified (observe history action next) answer := by
  have silent : next.log = history.state.log → Justified (observe history action next) answer := by
    intro log
    rw [answersOf_of_resumptions (by simp only [State.resumptions, log])] at member
    cases member
  cases stepped_of_step moved with
  | suspend awaiter now handle _ => exact silent rfl
  | destroy id _ =>
      rw [answersOf_destroy] at member
      cases member
  | cancel token =>
      obtain ⟨waits, pending, epoll, registrations, cancelled, -⟩ := history.state.cancel_eq token
      exact silent (by rw [cancelled])
  | swap before => exact silent rfl
  | @register point registration refused items harvested idle =>
      cases refused with
      | true =>
          obtain rfl := mem_answersOf_resumeReady rfl member
          refine Or.inl (List.mem_append_left _ ?_)
          simp [refusedBy, items]
      | false =>
          rw [State.registerItem_granted] at silent
          rw [State.registerItem_granted]
          exact silent rfl
  | harvest ready before may => exact silent rfl
  | waitFails before => exact silent rfl
  | dispatch before =>
      apply silent
      rw [State.dispatch]
      split_ifs
      · rfl
      · split <;> rfl
  | @finishDispatch registration events before =>
      obtain rfl := mem_answersOf_resumeReady rfl member
      exact (placed.dispatched registration events before).observe
  | expire now before same => exact silent rfl
  | @resumeExpired registration rest before =>
      obtain rfl := mem_answersOf_resumeReady rfl member
      exact Or.inr (placed.expired _ before registration List.mem_cons_self).observe

/-- Resumptions are only added. -/
theorem exists_resumptions (moved : step history.state action = some next) :
    ∃ added, next.resumptions = history.state.resumptions ++ added := by
  rcases em (∃ awaiter now handle, action = .suspend awaiter now handle) with new | old
  · obtain ⟨awaiter, now, handle, rfl⟩ := new
    cases stepped_of_step moved
    exact ⟨[], (List.append_nil _).symm⟩
  · have moves := moves_step moved fun awaiter now handle same => old ⟨awaiter, now, handle, same⟩
    rcases moves.recorded with log | ⟨registration, log, -⟩ | ⟨id, log, -⟩
    · exact ⟨[], by simp [State.resumptions, log]⟩
    · exact ⟨[registration], by simp [State.resumptions, log, Event.resumption]⟩
    · exact ⟨[], by simp [State.resumptions, log, Event.resumption]⟩

/-- Every resumed wait has one answer, and each is justified. -/
structure Truthful (history : History) : Prop where
  issued : Issued history
  placed : Placed history
  justified : ∀ answer ∈ history.answers, Justified history answer

theorem enqueued_le (moved : step history.state action = some next) :
    history.state.enqueued ≤ next.enqueued := by
  rcases em (∃ awaiter now handle, action = .suspend awaiter now handle) with new | old
  · obtain ⟨awaiter, now, handle, rfl⟩ := new
    cases stepped_of_step moved
    exact Nat.le_succ _
  · have moves := moves_step moved fun awaiter now handle same => old ⟨awaiter, now, handle, same⟩
    exact Nat.le_of_eq moves.enqueued.symm

theorem truthful_of_observed (observed : Observed wakeFd history)
    (few : history.state.enqueued < 2 ^ 64 - 1) : Truthful history := by
  induction observed with
  | initial => exact ⟨issued_initial wakeFd, placed_initial wakeFd, fun _ member => by cases member⟩
  | @step history next action before permitted moved ih =>
      obtain ⟨moved, same⟩ := moved
      have fewer := Nat.lt_of_le_of_lt (enqueued_le moved) few
      have earlier := ih fewer
      rw [same]
      refine ⟨issued_step earlier.issued moved,
        placed_step earlier.placed earlier.issued fewer moved, ?_⟩
      intro answer member
      rcases List.mem_append.mp member with new | old
      · exact justified_step earlier.placed moved new
      · exact (earlier.justified answer old).observe

theorem answered_of_observed (observed : Observed wakeFd history) :
    (history.answers.map Prod.fst).Perm history.state.resumptions := by
  induction observed with
  | initial => exact List.Perm.refl _
  | @step history next action before permitted moved ih =>
      obtain ⟨moved, same⟩ := moved
      obtain ⟨added, resumptions⟩ := exists_resumptions moved
      rw [same]
      simp only [observe, answersOf, resumptions, List.drop_left, List.map_append, List.map_map]
      have own : (Prod.fst ∘ fun registration : WaitRegistration =>
          (registration, !(next.state.waits registration.state).timedOut)) = id := rfl
      rw [own, List.map_id]
      exact (List.perm_append_comm).trans (ih.append_right added)

/-- In every run, as long as tokens do not repeat, each resumed wait gets one answer from
`await_resume`: true only if `epoll_wait` has returned its descriptor under its own token and with
its own events, false only if the kernel refused to register it or its deadline had passed when the
loop checked. -/
theorem answers_truthful (observed : Observed wakeFd history)
    (few : history.state.enqueued < 2 ^ 64 - 1) :
    (history.answers.map Prod.fst).Perm history.state.resumptions ∧
      ∀ wait answer, (wait, answer) ∈ history.answers → wait ∈ history.issued ∧
        (answer = true →
          (wait.fd, ⟨wait.token, wait.events ||| EPOLLONESHOT, true⟩) ∈ history.returned) ∧
        (answer = false →
          wait ∈ history.refused ∨ ∃ now ∈ history.checked, wait.deadline ≤ now) := by
  have answered := answered_of_observed observed
  have truthful := truthful_of_observed observed few
  refine ⟨answered, ?_⟩
  intro wait answer member
  have justified := truthful.justified _ member
  have resumed : wait ∈ history.state.resumptions :=
    answered.subset (List.mem_map_of_mem member)
  refine ⟨truthful.issued.filed wait (List.mem_append_left _ resumed), ?_, ?_⟩
  · rintro rfl
    exact justified
  · rintro rfl
    exact justified

theorem Observed.step (action : Action) (observed : Observed wakeFd history)
    (moved : step history.state action = some next) :
    Observed wakeFd (observe history action next) :=
  GuardedRun.step action observed trivial ⟨moved, rfl⟩

/-- Two waits for one descriptor: the second one takes its entry over and is resumed by its event,
the first one is never reported and expires. -/
theorem answers_truthful_twoWaits :
    ∃ history, Observed 3 history ∧ history.answers.map Prod.snd = [false, true] ∧
      ∀ wait answer, (wait, answer) ∈ history.answers → wait ∈ history.issued ∧
        (answer = true →
          (wait.fd, ⟨wait.token, wait.events ||| EPOLLONESHOT, true⟩) ∈ history.returned) ∧
        (answer = false →
          wait ∈ history.refused ∨ ∃ now ∈ history.checked, wait.deadline ≤ now) := by
  have start : Observed 3 { state := initial 3 } := .initial
  have first := start.step (.suspend reader 0 1) rfl
  have second := first.step (.suspend { reader with timeoutMs := 60, state := 1 } 0 2) rfl
  have swapped := second.step .swap rfl
  have filed := (swapped.step (.register false) rfl).step (.register false) rfl
  have harvested := filed.step (.harvest [5]) rfl
  have resumed := (harvested.step .dispatch rfl).step .finishDispatch rfl
  have expired := resumed.step (.expire 50 [{ awaitSuspend reader 0 1 with token := 1 }]) rfl
  have ended := expired.step .resumeExpired rfl
  exact ⟨_, ended, rfl, (answers_truthful ended (by decide)).2⟩

end AsyncRuntime

end Hxrpc
