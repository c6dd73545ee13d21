import Hxrpc.Async.Runtime
import Hxrpc.Lib.Ledger
import Mathlib.Algebra.Ring.Nat

/-!
# Each wait is resumed at most once

A registration is moved from place to place and never copied; whoever takes it out of the last place
resumes it or drops it.  An awaiter that is destroyed leaves its mark in the wait state, wherever
the registration happens to be, and `ResumeReady` looks at the mark.
-/

namespace Hxrpc

open Epoll

namespace AsyncRuntime

/-- The wait that is resumed. -/
def Event.resumption : Event → Option WaitRegistration
  | .resumed registration => some registration
  | .destroyed _ => none

namespace State

/-- The waits that were resumed so far. -/
def resumptions (state : State) : List WaitRegistration := state.log.filterMap Event.resumption

/-- The registrations in `pending_`, in the local variables of the loop (the items of a registration
pass, the registration that was dispatched, or those that have expired) and in `registrations_`. -/
def inFlight (state : State) : List WaitRegistration :=
  state.pending ++ state.point.held ++ state.registered

/-- The waits that are resumed or in one of these places. -/
def accounted (state : State) : List WaitRegistration := state.resumptions ++ state.inFlight

end State

theorem count_accounted (state : State) (item : WaitRegistration) :
    state.accounted.count item = state.resumptions.count item + state.pending.count item +
      state.point.held.count item + state.registered.count item := by
  simp only [State.accounted, State.inFlight, List.count_append]
  omega

/-! ## What a step does to the waits -/

/-- The waits are moved, resumed or dropped, marks of destroyed awaiters stay, and a handle is only
resumed when there is no such mark. -/
structure Moves (state next : State) : Prop where
  moved : ∀ item, next.accounted.count item ≤ state.accounted.count item
  enqueued : next.enqueued = state.enqueued
  nextToken : next.nextToken = state.nextToken
  cancelled : ∀ id, (state.waits id).cancelled → (next.waits id).cancelled
  recorded : next.log = state.log ∨
    (∃ registration, next.log = state.log ++ [.resumed registration] ∧
      (state.waits registration.state).cancelled = false) ∨
    ∃ id, next.log = state.log ++ [.destroyed id] ∧ (next.waits id).cancelled

variable {state : State}

/-- Only the places of the registrations change, and none gains what no place had. -/
theorem moves_of_count {next : State} (waits : next.waits = state.waits)
    (enqueued : next.enqueued = state.enqueued) (nextToken : next.nextToken = state.nextToken)
    (log : next.log = state.log)
    (moved : ∀ item, next.pending.count item + next.point.held.count item +
      next.registered.count item ≤
        state.pending.count item + state.point.held.count item + state.registered.count item) :
    Moves state next := by
  refine ⟨?_, enqueued, nextToken, fun id gone => waits ▸ gone, Or.inl log⟩
  intro item
  have places := moved item
  rw [count_accounted, count_accounted, State.resumptions, log, ← State.resumptions]
  omega

/-- A registration that was taken out of its place is resumed, or dropped. -/
theorem moves_resumeReady {taken : State} {registration : WaitRegistration} (timedOut : Bool)
    (waits : taken.waits = state.waits) (enqueued : taken.enqueued = state.enqueued)
    (nextToken : taken.nextToken = state.nextToken) (log : taken.log = state.log)
    (moved : ∀ item, taken.pending.count item + taken.point.held.count item +
      taken.registered.count item + [registration].count item ≤
        state.pending.count item + state.point.held.count item + state.registered.count item) :
    Moves state (taken.resumeReady registration timedOut) := by
  obtain ⟨marks, written, resumed, marks_eq, written_eq⟩ :=
    taken.resumeReady_eq registration timedOut
  rw [resumed]
  refine ⟨?_, enqueued, nextToken, ?_, ?_⟩
  · intro item
    have places := moved item
    rw [count_accounted, count_accounted]
    simp only [State.resumptions, State.registered] at places ⊢
    rcases written_eq with rfl | ⟨rfl, -⟩
    · rw [log]
      omega
    · rw [log, List.filterMap_append, List.count_append]
      simp only [List.filterMap_cons, Event.resumption, List.filterMap_nil]
      omega
  · intro id gone
    rw [marks_eq, waits]
    exact gone
  · rcases written_eq with rfl | ⟨rfl, live⟩
    · exact Or.inl log
    · exact Or.inr (Or.inl ⟨registration, by rw [← log], waits ▸ live⟩)

theorem count_registered_erase {token : UInt64} {registration : WaitRegistration}
    (found : state.registrations.lookup token = some registration) (item : WaitRegistration) :
    ((state.registrations.erase token).entries.map (·.2)).count item + [registration].count item =
      state.registered.count item := by
  rw [(perm_registered_of_lookup found).count_eq, List.count_cons, List.count_cons]
  simp

theorem moves_cancel (state : State) (token : UInt64) : Moves state (state.cancel token) := by
  obtain ⟨waits, pending, epoll, registrations, cancelled, marks, sublist, table⟩ :=
    state.cancel_eq token
  rw [cancelled]
  refine ⟨?_, rfl, rfl, fun id gone => (marks id).trans gone, Or.inl rfl⟩
  intro item
  have fewer := sublist.count_le item
  rw [count_accounted, count_accounted]
  simp only [State.resumptions, State.registered]
  rcases table with ⟨-, -, rfl⟩ | ⟨registration, found, -, rfl⟩
  · omega
  · have erased := count_registered_erase found item
    simp only [State.registered] at erased
    omega

theorem moves_markCancelled (state : State) (id : Nat) :
    Moves state (state.markCancelled id) := by
  refine ⟨?_, rfl, rfl, fun _ => cancelled_markCancelled_of_cancelled state id,
    Or.inr (Or.inr ⟨id, rfl, cancelled_markCancelled state id⟩)⟩
  intro item
  rw [count_accounted, count_accounted]
  simp only [State.markCancelled, State.resumptions, State.registered, List.filterMap_append,
    List.filterMap_cons, Event.resumption, List.filterMap_nil, List.append_nil, le_refl]

theorem moves_destroy (state : State) (id : Nat) : Moves state (state.destroy id) := by
  have marked := moves_markCancelled state id
  simp only [State.destroy]
  split
  · have cancelled := moves_cancel (state.markCancelled id)
      ((state.markCancelled id).waits id).token
    refine ⟨fun item => le_trans (cancelled.moved item) (marked.moved item), cancelled.enqueued,
      cancelled.nextToken,
      fun other gone => cancelled.cancelled other (marked.cancelled other gone),
      Or.inr (Or.inr ⟨id, ?_, cancelled.cancelled id (cancelled_markCancelled state id)⟩)⟩
    obtain ⟨_, _, _, _, cancel_eq, -⟩ := (state.markCancelled id).cancel_eq
      ((state.markCancelled id).waits id).token
    rw [cancel_eq]
    rfl
  · exact marked

theorem moves_registerItem {point : Point} {registration : WaitRegistration}
    (items : state.point.held = registration :: point.held) (refused : Bool) :
    Moves state ({ state with point := point }.registerItem registration refused) := by
  cases refused with
  | true =>
      rw [State.registerItem_refused]
      refine moves_resumeReady true rfl rfl rfl rfl ?_
      intro item
      rw [items, List.count_cons, List.count_cons]
      simp only [State.registered, List.count_nil]
      omega
  | false =>
      rw [State.registerItem_granted]
      refine moves_of_count rfl rfl rfl rfl ?_
      intro item
      have fewer := ((List.kerase_sublist registration.token
        state.registrations.entries).map (·.2)).count_le item
      rw [items, List.count_cons]
      simp only [State.registered, AList.insert, List.kinsert, List.map_cons, List.count_cons]
      omega

theorem moves_dispatch {token : UInt64} {events : List UInt64}
    (before : state.point = .dispatching [] (token :: events)) :
    Moves state (state.dispatch token events) := by
  simp only [State.dispatch]
  split
  · refine moves_of_count rfl rfl rfl rfl ?_
    intro item
    simp only [before, Point.held, State.registered, List.count_nil]
    omega
  · cases found : state.registrations.lookup token with
    | none => exact moves_of_count rfl rfl rfl rfl (by simp [before, Point.held, State.registered])
    | some registration =>
        refine moves_of_count rfl rfl rfl rfl ?_
        intro item
        have erased := count_registered_erase found item
        simp only [before, Point.held, State.registered, List.count_nil] at erased ⊢
        omega

theorem moves_expire {now : Int} {order : List WaitRegistration}
    (before : state.point = .dispatching [] []) (same : order.Perm (state.overdue now)) :
    Moves state (state.expire now order) := by
  refine moves_of_count rfl rfl rfl rfl ?_
  intro item
  have parted := (List.filter_append_perm (fun registration : WaitRegistration =>
    registration.deadline ≤ now) state.registered).count_eq item
  have kept : (state.expire now order).registered =
      state.registered.filter fun registration => ¬ registration.deadline ≤ now := by
    simp only [State.expire, State.registered, List.filter_map]
    rfl
  rw [List.count_append] at parted
  rw [kept, before]
  simp only [State.expire, Point.held, List.count_nil, same.count_eq, State.overdue]
  simp only [decide_not] at parted ⊢
  omega

/-- Every step but a new wait only moves waits. -/
theorem moves_step {next : State} {action : Action} (moved : step state action = some next)
    (old : ∀ awaiter now handle, action ≠ .suspend awaiter now handle) : Moves state next := by
  cases stepped_of_step moved with
  | suspend awaiter now handle _ => exact absurd rfl (old awaiter now handle)
  | destroy id _ => exact moves_destroy state id
  | cancel token => exact moves_cancel state token
  | swap before =>
      refine moves_of_count rfl rfl rfl rfl ?_
      intro item
      simp only [before, Point.held, State.registered, List.count_nil]
      omega
  | register refused items _ _ => exact moves_registerItem items refused
  | harvest ready before _ =>
      exact moves_of_count rfl rfl rfl rfl (by simp [before, Point.held, State.registered])
  | waitFails before =>
      exact moves_of_count rfl rfl rfl rfl (by simp [before, Point.held, State.registered])
  | dispatch before => exact moves_dispatch before
  | finishDispatch before =>
      refine moves_resumeReady false rfl rfl rfl rfl ?_
      intro item
      simp only [before, Point.held, State.registered, List.count_nil]
      omega
  | expire now before same => exact moves_expire before same
  | resumeExpired before =>
      refine moves_resumeReady true rfl rfl rfl rfl ?_
      intro item
      simp only [before, Point.held, State.registered, List.count_cons, List.count_nil]
      omega

/-! ## The invariant -/

/-- A resumption does not come after the end of the awaiter. -/
def Event.MayPrecede (earlier later : Event) : Prop :=
  ∀ registration, later = .resumed registration → earlier ≠ .destroyed registration.state

/-- Waits are numbered, tokens follow the numbers, and destroyed awaiters are marked. -/
structure Kept (state : State) : Prop where
  ledger : Ledger WaitRegistration.number state.enqueued state.accounted
  next : state.nextToken = UInt64.ofNat (state.enqueued + 1)
  tokens : ∀ item ∈ state.accounted, item.token = UInt64.ofNat (item.number + 1)
  marked : ∀ id, .destroyed id ∈ state.log → (state.waits id).cancelled
  order : state.log.Pairwise Event.MayPrecede

theorem kept_initial (wakeFd : Int) : Kept (initial wakeFd) where
  ledger := Ledger.nil _
  next := rfl
  tokens := by
    intro item member
    cases member
  marked := by
    intro id member
    cases member
  order := List.Pairwise.nil

theorem kept_of_moves {next : State} (kept : Kept state) (moves : Moves state next) :
    Kept next where
  ledger := moves.enqueued ▸ kept.ledger.of_count moves.moved
  next := by rw [moves.nextToken, moves.enqueued, kept.next]
  tokens := by
    intro item member
    apply kept.tokens
    have present := List.count_pos_iff.mpr member
    have before := moves.moved item
    exact List.count_pos_iff.mp (by omega)
  marked := by
    intro id member
    rcases moves.recorded with same | ⟨registration, log, -⟩ | ⟨other, log, gone⟩
    · exact moves.cancelled id (kept.marked id (same ▸ member))
    · apply moves.cancelled id (kept.marked id _)
      simpa [log] using member
    · rw [log, List.mem_append, List.mem_singleton] at member
      rcases member with member | same
      · exact moves.cancelled id (kept.marked id member)
      · cases same
        exact gone
  order := by
    rcases moves.recorded with same | ⟨registration, log, live⟩ | ⟨id, log, -⟩
    · exact same ▸ kept.order
    · rw [log, List.pairwise_append]
      refine ⟨kept.order, List.pairwise_singleton _ _, ?_⟩
      intro earlier member later later_member other later_eq earlier_eq
      obtain rfl := List.mem_singleton.mp later_member
      cases later_eq
      -- The awaiter would carry the mark that `ResumeReady` has just not found.
      have gone := kept.marked _ (earlier_eq ▸ member)
      rw [live] at gone
      cases gone
    · rw [log, List.pairwise_append]
      refine ⟨kept.order, List.pairwise_singleton _ _, ?_⟩
      intro earlier _ later later_member other later_eq
      obtain rfl := List.mem_singleton.mp later_member
      cases later_eq

theorem kept_enqueue (kept : Kept state) (registration : WaitRegistration) :
    Kept (state.enqueue registration) := by
  have accounted : (state.enqueue registration).accounted.Perm
      ({ registration with token := state.nextToken, number := state.enqueued } ::
        state.accounted) := by
    simp only [State.enqueue, State.accounted, State.resumptions, State.inFlight, State.registered,
      List.append_assoc]
    exact (List.perm_middle.append_left _).trans List.perm_middle
  constructor
  · exact (kept.ledger.issue rfl).of_subperm accounted.subperm
  · simp [State.enqueue, kept.next, UInt64.ofNat_add]
  · intro item member
    rcases List.mem_cons.mp (accounted.mem_iff.mp member) with rfl | member
    · exact kept.next
    · exact kept.tokens item member
  · intro id member
    exact (cancelled_update (by rfl) id).trans (kept.marked id member)
  · exact kept.order

theorem kept_step {next : State} {action : Action} (kept : Kept state)
    (moved : step state action = some next) : Kept next := by
  cases action with
  | suspend awaiter now handle =>
      cases stepped_of_step moved
      exact kept_enqueue kept _
  | _ => exact kept_of_moves kept (moves_step moved (by simp))

theorem kept_of_run {wakeFd : Int} {allowed : State → Action → Prop}
    (run : Run wakeFd allowed state) : Kept state :=
  run.invariant Kept (kept_initial wakeFd) fun kept _ moved => kept_step kept moved

/-! ## Every run -/

/-- What coroutines rely on: a wait is in one place at most, under a token of its own, its handle is
resumed at most once and not after the end of its awaiter. -/
structure ResumedOnce (state : State) : Prop where
  one_place : (state.inFlight.map WaitRegistration.number).Nodup
  distinct : (state.inFlight.map WaitRegistration.token).Nodup
  ne_zero : ∀ item ∈ state.inFlight, item.token ≠ 0
  once : (state.resumptions.map WaitRegistration.number).Nodup
  gone : ∀ item ∈ state.resumptions, ∀ other ∈ state.inFlight, item.number ≠ other.number
  order : state.log.Pairwise Event.MayPrecede

/-- As long as no token comes back, each wait is resumed once at most and never after the end of its
awaiter, however the threads take turns. -/
theorem resumedOnce_of_run {wakeFd : Int} (run : Run wakeFd (fun _ _ => True) state)
    (few : state.enqueued < 2 ^ 64 - 1) : ResumedOnce state := by
  have kept := kept_of_run run
  have parted := kept.ledger.nodup
  rw [State.accounted, List.map_append, List.nodup_append] at parted
  have mine : ∀ item ∈ state.inFlight, item ∈ state.accounted :=
    fun item member => List.mem_append_right _ member
  have ledger : Ledger WaitRegistration.number state.enqueued state.inFlight :=
    kept.ledger.of_subperm (List.sublist_append_right _ _).subperm
  have value : ∀ item ∈ state.inFlight, item.token.toNat = item.number + 1 := by
    intro item member
    have below := ledger.below item member
    rw [kept.tokens item (mine item member)]
    exact UInt64.toNat_ofNat_of_lt' (show item.number + 1 < 2 ^ 64 by omega)
  refine ⟨ledger.nodup, ledger.nodup_map WaitRegistration.token ?_, ?_, parted.1, ?_, kept.order⟩
  · intro left left_member right right_member same
    have left_value := value left left_member
    have right_value := value right right_member
    rw [same] at left_value
    omega
  · intro item member zero
    have token_value := value item member
    rw [zero] at token_value
    simp at token_value
  · intro item member other other_member
    exact parted.2.2 _ (List.mem_map_of_mem member) _ (List.mem_map_of_mem other_member)

/-- The coroutine with handle 1 waits for descriptor 5 to become readable. -/
def reader : FdAwaiter := { fd := 5, events := EPOLLIN, timeoutMs := 50, state := 0 }

/-- The awaiter ends while its wait is among the items of a registration pass, where `Cancel` does
not look; the event that comes later resumes nobody. -/
theorem resumedOnce_lateCancel :
    ∃ state, Run 3 (fun _ _ => True) state ∧ state.log = [.destroyed 0] ∧ state.inFlight = [] ∧
      ResumedOnce state := by
  have waiting : Run 3 (fun _ _ => True) _ :=
    .step (.suspend reader 0 1) .initial trivial rfl
  have swapped := GuardedRun.step .swap waiting trivial rfl
  have destroyed := GuardedRun.step (.destroy 0) swapped trivial rfl
  have registered := GuardedRun.step (.register false) destroyed trivial rfl
  have harvested := GuardedRun.step (.harvest [5]) registered trivial rfl
  have dispatched := GuardedRun.step .dispatch harvested trivial rfl
  have finished := GuardedRun.step .finishDispatch dispatched trivial rfl
  exact ⟨_, finished, rfl, rfl, resumedOnce_of_run finished (by decide)⟩

end AsyncRuntime

end Hxrpc
