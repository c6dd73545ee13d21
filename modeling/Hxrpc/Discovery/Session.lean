import Hxrpc.Discovery.Registrar
import Hxrpc.Lib.GuardedRun

/-!
# Sessions of several clients

`ZkClient::Start` step by step, for any number of clients.  They share one flag: every `Start`
clears it, and the watcher sets it when the session of any client is connected.  A client reports
its own session as long as nobody clears the flag after its session was connected and no other
session is connected before.
-/

namespace Hxrpc

namespace ZkClient

namespace Session

/-- How far `Start` came. -/
inductive Phase where
  /-- Not called yet. -/
  | idle
  /-- The flag is cleared, `zookeeper_init` is next. -/
  | cleared
  /-- There is a handle, and `Start` waits for the flag. -/
  | waiting
  /-- It returned success. -/
  | returned
  /-- `zookeeper_init` failed, and `Start` returned this error. -/
  | failed (error : RpcError)
  deriving DecidableEq

variable {Id : Type}

/-- The flag and the clients. -/
structure State (Id : Type) where
  /-- `g_connected`. -/
  connected : Bool := false
  /-- Where the clients are. -/
  phases : Id → Phase := fun _ => .idle
  /-- The clients whose handles had a connected event. -/
  established : Id → Bool := fun _ => false

/-- What happens next. -/
inductive Action (Id : Type) where
  /-- `Start` clears the flag. -/
  | clear (id : Id)
  /-- `zookeeper_init` returns a handle or a null pointer. -/
  | init (id : Id) (created : Bool)
  /-- `Start` wakes up, finds the flag set and returns. -/
  | wake (id : Id)
  /-- `GlobalWatcher` sees that the session of this client's handle is connected, for the first time
  or again. -/
  | event (id : Id)

variable [DecidableEq Id]

/-- Move a client to a phase. -/
def State.setPhase (state : State Id) (id : Id) (phase : Phase) : State Id :=
  { state with phases := Function.update state.phases id phase }

/-- One step of the machine. -/
def step (state : State Id) : Action Id → Option (State Id)
  | .clear id =>
      if state.phases id = .idle then some ({ state with connected := false }.setPhase id .cleared)
      else none
  | .init id created =>
      if state.phases id = .cleared then
        some (state.setPhase id
          (if created then .waiting else .failed (zkError "zookeeper_init failed")))
      else none
  | .wake id =>
      if state.phases id = .waiting ∧ state.connected = true then some (state.setPhase id .returned)
      else none
  | .event id =>
      if state.phases id = .waiting ∨ state.phases id = .returned then
        some { state with
          connected := true
          established := Function.update state.established id true }
      else none

/-- The states of all runs in which every step meets a condition on the state before it. -/
abbrev Run (allowed : State Id → Action Id → Prop) : State Id → Prop :=
  GuardedRun (fun state action next => step state action = some next) allowed {}

/-- A client that returned had its own event, and a client that had its event finds the flag set. -/
structure ReportsOwn (state : State Id) : Prop where
  own : ∀ id, state.phases id = .returned → state.established id = true
  kept : ∀ id, state.phases id = .waiting → state.established id = true → state.connected = true

/-- The flag is not cleared while another client that had its event has still to return, and no
session is connected while another client without its event is under way. -/
def Undisturbed (state : State Id) : Action Id → Prop
  | .clear id => ∀ other, other ≠ id → state.phases other = .waiting →
      state.established other = false
  | .event id => ∀ other, other ≠ id →
      state.phases other = .cleared ∨ state.phases other = .waiting →
      state.established other = true
  | _ => True

/-! ## The invariant -/

/-- What the flag says about a client: while it waits, the flag is set exactly when it had its
event. -/
def Faithful : Phase → Bool → Bool → Prop
  | .idle, established, _ => established = false
  | .cleared, established, connected => established = false ∧ connected = false
  | .waiting, established, connected => established = connected
  | .returned, established, _ => established = true
  | .failed _, _, _ => True

/-- The flag is right about every client. -/
def AllFaithful (state : State Id) : Prop :=
  ∀ id, Faithful (state.phases id) (state.established id) state.connected

theorem allFaithful_clear {state : State Id} (faithful : AllFaithful state) {id : Id}
    (idle : state.phases id = .idle)
    (undisturbed : ∀ other, other ≠ id → state.phases other = .waiting →
      state.established other = false) :
    AllFaithful ({ state with connected := false }.setPhase id .cleared) := by
  intro other
  by_cases same : other = id
  · subst same
    have fresh := faithful other
    rw [idle] at fresh
    simpa [State.setPhase, Faithful] using fresh
  · have before := faithful other
    cases phase : state.phases other with
    | waiting => simpa [State.setPhase, same, phase, Faithful] using undisturbed other same phase
    | _ => simp_all [State.setPhase, Faithful]

theorem allFaithful_init {state : State Id} (faithful : AllFaithful state) {id : Id}
    (cleared : state.phases id = .cleared) (created : Bool) :
    AllFaithful (state.setPhase id
      (if created then .waiting else .failed (zkError "zookeeper_init failed"))) := by
  intro other
  by_cases same : other = id
  · subst same
    have before := faithful other
    rw [cleared] at before
    cases created <;> simp_all [State.setPhase, Faithful]
  · simpa [State.setPhase, same] using faithful other

theorem allFaithful_wake {state : State Id} (faithful : AllFaithful state) {id : Id}
    (waiting : state.phases id = .waiting) (connected : state.connected = true) :
    AllFaithful (state.setPhase id .returned) := by
  intro other
  by_cases same : other = id
  · subst same
    have before := faithful other
    rw [waiting, connected] at before
    simpa [State.setPhase, Faithful] using before
  · simpa [State.setPhase, same] using faithful other

theorem allFaithful_event {state : State Id} (faithful : AllFaithful state) {id : Id}
    (handle : state.phases id = .waiting ∨ state.phases id = .returned)
    (undisturbed : ∀ other, other ≠ id →
      state.phases other = .cleared ∨ state.phases other = .waiting →
      state.established other = true) :
    AllFaithful { state with
      connected := true
      established := Function.update state.established id true } := by
  intro other
  by_cases same : other = id
  · subst same
    rcases handle with waiting | returned
    · simp [waiting, Faithful]
    · simp [returned, Faithful]
  · have before := faithful other
    cases phase : state.phases other with
    | cleared =>
        rw [phase] at before
        simp [undisturbed other same (Or.inl phase), Faithful] at before
    | waiting => simp [same, undisturbed other same (Or.inr phase), Faithful]
    | _ => simp_all [Faithful]

/-- Every step that disturbs nobody leaves the flag right. -/
theorem allFaithful_step {state next : State Id} {action : Action Id} (faithful : AllFaithful state)
    (undisturbed : Undisturbed state action) (moved : step state action = some next) :
    AllFaithful next := by
  cases action with
  | clear id =>
      obtain ⟨idle, same⟩ := Option.ite_none_right_eq_some.mp moved
      obtain rfl := Option.some.inj same
      exact allFaithful_clear faithful idle undisturbed
  | init id created =>
      obtain ⟨cleared, same⟩ := Option.ite_none_right_eq_some.mp moved
      obtain rfl := Option.some.inj same
      exact allFaithful_init faithful cleared created
  | wake id =>
      obtain ⟨⟨waiting, connected⟩, same⟩ := Option.ite_none_right_eq_some.mp moved
      obtain rfl := Option.some.inj same
      exact allFaithful_wake faithful waiting connected
  | event id =>
      obtain ⟨handle, same⟩ := Option.ite_none_right_eq_some.mp moved
      obtain rfl := Option.some.inj same
      exact allFaithful_event faithful handle undisturbed

omit [DecidableEq Id] in
theorem reportsOwn_of_allFaithful {state : State Id} (faithful : AllFaithful state) :
    ReportsOwn state where
  own := by
    intro id returned
    have own := faithful id
    rw [returned] at own
    exact own
  kept := by
    intro id waiting established
    have same := faithful id
    rw [waiting, established] at same
    exact same.symm

/-! ## Whole runs -/

/-- Everything that can happen behind a state. -/
abbrev Reaches : State Id → State Id → Prop :=
  GuardedRun (fun state action next => step state action = some next) fun _ _ => True

/-- A client that waits without its event while the flag is set returns without its event. -/
theorem not_own_of_waiting {state : State Id} {id : Id} (waiting : state.phases id = .waiting)
    (connected : state.connected = true) (early : state.established id = false) :
    ∃ last, Reaches state last ∧ ¬ ReportsOwn last := by
  refine ⟨state.setPhase id .returned, .step (.wake id) .initial trivial ?_, ?_⟩
  · simp [step, waiting, connected]
  · intro reports
    have own := reports.own id (by simp [State.setPhase])
    simp [State.setPhase, early] at own

/-- A client under way without its event can return without it as soon as the flag is set. -/
theorem not_own_of_underway {state : State Id} {id : Id}
    (underway : state.phases id = .cleared ∨ state.phases id = .waiting)
    (connected : state.connected = true) (early : state.established id = false) :
    ∃ last, Reaches state last ∧ ¬ ReportsOwn last := by
  rcases underway with cleared | waiting
  · have created : step state (.init id true) = some (state.setPhase id .waiting) := by
      simp [step, cleared]
    refine ⟨(state.setPhase id .waiting).setPhase id .returned,
      .step (.wake id) (.step (.init id true) .initial trivial created) trivial ?_, ?_⟩
    · simp [step, State.setPhase, connected]
    · intro reports
      have own := reports.own id (by simp [State.setPhase])
      simp [State.setPhase, early] at own
  · exact not_own_of_waiting waiting connected early

/-- A step that disturbs a client leads to a state in which the flag was wrong about it. -/
theorem not_reportsOwn_of_disturbed {state next : State Id} {action : Action Id}
    (disturbed : ¬ Undisturbed state action) (moved : step state action = some next) :
    ∃ last, Reaches next last ∧ ¬ ReportsOwn last := by
  cases action with
  | clear id =>
      obtain ⟨-, same⟩ := Option.ite_none_right_eq_some.mp moved
      obtain rfl := Option.some.inj same
      simp only [Undisturbed, not_forall, Bool.not_eq_false] at disturbed
      obtain ⟨other, ne, waiting, established⟩ := disturbed
      refine ⟨_, .initial, ?_⟩
      intro reports
      have kept := reports.kept other (by simpa [State.setPhase, ne] using waiting) established
      cases kept
  | init id created => exact absurd trivial disturbed
  | wake id => exact absurd trivial disturbed
  | event id =>
      obtain ⟨-, same⟩ := Option.ite_none_right_eq_some.mp moved
      obtain rfl := Option.some.inj same
      simp only [Undisturbed, not_forall, Bool.not_eq_true] at disturbed
      obtain ⟨other, ne, underway, early⟩ := disturbed
      exact not_own_of_underway underway rfl (by simpa [ne] using early)

/-- In every run in which no client is disturbed, each `Start` reports its own session; every step
that disturbs a client can lead to a client that finds the flag cleared after its event or returned
without its event. -/
theorem start_reports_own_session {state : State Id} (run : Run Undisturbed state) :
    ReportsOwn state ∧
      ∀ action next, step state action = some next → ¬ Undisturbed state action →
        ∃ last, Reaches next last ∧ ¬ ReportsOwn last := by
  constructor
  · exact reportsOwn_of_allFaithful (run.invariant AllFaithful (fun _ => rfl) allFaithful_step)
  · intro action next moved disturbed
    exact not_reportsOwn_of_disturbed disturbed moved

/-- The second client starts when the first has returned. -/
theorem start_reports_own_session_in_turn :
    ∃ state : State Bool, Run Undisturbed state ∧ state.phases false = .returned ∧
      state.phases true = .returned ∧ ReportsOwn state := by
  have first : Run Undisturbed (_ : State Bool) := .step (.init false true)
    (.step (.clear false) .initial (by simp [Undisturbed]) rfl) (by simp [Undisturbed]) rfl
  have connected := GuardedRun.step (Action.event false) first
    (by simp [Undisturbed, State.setPhase]) rfl
  have returned := GuardedRun.step (Action.wake false) connected (by simp [Undisturbed]) rfl
  have cleared := GuardedRun.step (Action.clear true) returned
    (by simp [Undisturbed, State.setPhase]) rfl
  have second := GuardedRun.step (Action.init true true) cleared (by simp [Undisturbed]) rfl
  have again := GuardedRun.step (Action.event true) second
    (by simp [Undisturbed, State.setPhase]) rfl
  have last := GuardedRun.step (Action.wake true) again (by simp [Undisturbed]) rfl
  exact ⟨_, last, rfl, rfl, (start_reports_own_session last).1⟩

/-- Both clients wait, and the session of the second is connected: the first returns success. -/
theorem start_reports_other_session :
    ¬ ∀ state : State Bool, Run (fun _ _ => True) state → ReportsOwn state := by
  intro reports
  have first : Run (fun _ _ => True) _ :=
    .step (.init false true) (.step (.clear false) .initial trivial rfl) trivial rfl
  have cleared := GuardedRun.step (.clear true) first trivial rfl
  have second := GuardedRun.step (.init true true) cleared trivial rfl
  have connected := GuardedRun.step (.event true) second trivial rfl
  have returned := GuardedRun.step (.wake false) connected trivial rfl
  cases (reports _ returned).own false rfl

end Session

end ZkClient

end Hxrpc
