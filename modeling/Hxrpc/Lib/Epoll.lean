import Mathlib.Logic.Function.Basic
import Mathlib.Data.List.Nodup

/-!
# Interest lists of epoll

An interest list has one entry a descriptor, whatever the descriptor was registered for and by whom.
`EPOLL_CTL_ADD` refuses a descriptor that has an entry, `EPOLL_CTL_MOD` replaces its token and its
mask, and `EPOLL_CTL_DEL` removes it.  An entry with `EPOLLONESHOT` is disabled once it is
delivered.
-/

namespace Epoll

/-- `EPOLLIN`. -/
def EPOLLIN : UInt32 := 0x001

/-- `EPOLLOUT`. -/
def EPOLLOUT : UInt32 := 0x004

/-- `EPOLLONESHOT`. -/
def EPOLLONESHOT : UInt32 := 0x40000000

/-- What is asked of the kernel for one descriptor. -/
structure Interest where
  /-- `data.u64`. -/
  token : UInt64
  /-- The mask. -/
  events : UInt32
  /-- Whether events are still delivered. -/
  enabled : Bool := true
  deriving DecidableEq

/-- The entries by their descriptors. -/
abbrev InterestList := Int → Option Interest

/-- `EPOLL_CTL_ADD`; nothing stands for `EEXIST`. -/
def ctlAdd (interests : InterestList) (fd : Int) (token : UInt64) (events : UInt32) :
    Option InterestList :=
  match interests fd with
  | some _ => none
  | none => some (Function.update interests fd (some ⟨token, events, true⟩))

/-- `EPOLL_CTL_MOD`; nothing stands for `ENOENT`. -/
def ctlMod (interests : InterestList) (fd : Int) (token : UInt64) (events : UInt32) :
    Option InterestList :=
  match interests fd with
  | none => none
  | some _ => some (Function.update interests fd (some ⟨token, events, true⟩))

/-- `EPOLL_CTL_DEL`; a descriptor without an entry is left alone. -/
def ctlDel (interests : InterestList) (fd : Int) : InterestList :=
  Function.update interests fd none

/-- An entry that was delivered. -/
def Interest.delivered (interest : Interest) : Interest :=
  if interest.events &&& EPOLLONESHOT = 0 then interest else { interest with enabled := false }

/-- `epoll_wait` may return these descriptors. -/
def MayReturn (interests : InterestList) (maxEvents : Nat) (ready : List Int) : Prop :=
  ready.Nodup ∧ ready.length ≤ maxEvents ∧
    ∀ fd ∈ ready, (interests fd).any (·.enabled) = true

instance (interests : InterestList) (maxEvents : Nat) (ready : List Int) :
    Decidable (MayReturn interests maxEvents ready) :=
  inferInstanceAs (Decidable (_ ∧ _))

/-- The tokens that `epoll_wait` writes. -/
def tokensOf (interests : InterestList) (ready : List Int) : List UInt64 :=
  ready.filterMap fun fd => (interests fd).map (·.token)

/-- The interest list after `epoll_wait`. -/
def deliver (interests : InterestList) (ready : List Int) : InterestList :=
  fun fd => if fd ∈ ready then (interests fd).map Interest.delivered else interests fd

variable {interests : InterestList} {fd other : Int} {token : UInt64} {events : UInt32}

/-- Adding a descriptor or else modifying it sets its entry. -/
theorem ctlAdd_orElse_ctlMod :
    (ctlAdd interests fd token events).orElse (fun _ => ctlMod interests fd token events) =
      some (Function.update interests fd (some ⟨token, events, true⟩)) := by
  simp only [ctlAdd, ctlMod]
  cases interests fd with
  | none => rfl
  | some interest => rfl

@[simp] theorem ctlDel_self : ctlDel interests fd fd = none := Function.update_self _ _ _

theorem ctlDel_of_ne (ne : other ≠ fd) : ctlDel interests fd other = interests other :=
  Function.update_of_ne ne _ _

theorem deliver_of_notMem {ready : List Int} (absent : fd ∉ ready) :
    deliver interests ready fd = interests fd := if_neg absent

/-- The token of an entry that is delivered is written. -/
theorem token_mem_tokensOf {ready : List Int} {interest : Interest} (member : fd ∈ ready)
    (entry : interests fd = some interest) : interest.token ∈ tokensOf interests ready :=
  List.mem_filterMap.mpr ⟨fd, member, by rw [entry]; rfl⟩

end Epoll
