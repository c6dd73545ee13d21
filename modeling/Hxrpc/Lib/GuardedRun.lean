/-!
# Runs whose steps meet a condition

The states that a machine reaches from a state when it only takes steps that are allowed in the
state before them, and the rule that an invariant of these steps holds in all of them.  A machine
whose steps are computed can also take a list of them.
-/

section GuardedRun

variable {State Action : Type}

/-- The states of all runs in which every step is allowed. -/
inductive GuardedRun (moves : State → Action → State → Prop) (allowed : State → Action → Prop)
    (start : State) : State → Prop where
  | initial : GuardedRun moves allowed start start
  | step {state next : State} (action : Action) (before : GuardedRun moves allowed start state)
      (permitted : allowed state action) (moved : moves state action next) :
      GuardedRun moves allowed start next

namespace GuardedRun

variable {moves : State → Action → State → Prop} {allowed : State → Action → Prop}
  {start state : State}

/-- What holds at the start and is kept by every allowed step holds in every state of a run. -/
theorem invariant (run : GuardedRun moves allowed start state) (property : State → Prop)
    (holds : property start)
    (kept : ∀ {state next action}, property state → allowed state action →
      moves state action next → property next) : property state := by
  induction run with
  | initial => exact holds
  | step action before permitted moved ih => exact kept ih permitted moved

/-- When every step is, seen from somewhere, an allowed step of another machine or no step at all,
what is seen of a run is a run of the other machine. -/
theorem seen {Other OtherAction : Type} {otherMoves : Other → OtherAction → Other → Prop}
    {otherAllowed : Other → OtherAction → Prop} (see : State → Other)
    (run : GuardedRun moves allowed start state)
    (followed : ∀ {state next action}, GuardedRun moves allowed start state →
      allowed state action → moves state action next → see next = see state ∨
        ∃ other, otherAllowed (see state) other ∧ otherMoves (see state) other (see next)) :
    GuardedRun otherMoves otherAllowed (see start) (see state) := by
  induction run with
  | initial => exact .initial
  | step action before permitted moved ih =>
      rcases followed before permitted moved with same | ⟨other, permitted, moved⟩
      · exact same ▸ ih
      · exact ih.step other permitted moved

end GuardedRun

/-- What each of the actions keeps still holds when all of them were possible. -/
theorem holds_of_foldlM {step : State → Action → Option State} {actions : List Action}
    {state next : State} (property : State → Prop) (holds : property state)
    (kept : ∀ {state next action}, property state → action ∈ actions →
      step state action = some next → property next)
    (performed : actions.foldlM step state = some next) : property next := by
  induction actions generalizing state with
  | nil => exact Option.some.inj performed ▸ holds
  | cons action actions ih =>
      rw [List.foldlM_cons, Option.bind_eq_bind, Option.bind_eq_some_iff] at performed
      obtain ⟨between, moved, performed⟩ := performed
      exact ih (kept holds List.mem_cons_self moved)
        (fun held member => kept held (List.mem_cons_of_mem action member)) performed

end GuardedRun
