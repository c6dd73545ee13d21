import Hxrpc.Lib.BigEndian
import Mathlib.Data.List.Basic
import Mathlib.Data.List.DropRight

/-!
# The journal of one accepted socket

Everything that happens on one accepted socket, in order: chunks read from the kernel and the points
where it had no more, frames handed to the frame handler, frames passed to `Send`, and chunks that
the kernel took from `send`.  The journal is an auxiliary history; no function of the program reads
it.
-/

namespace Hxrpc

/-- One thing that happens on an accepted socket. -/
inductive Entry where
  /-- `recv` returned these bytes. -/
  | received (chunk : Bytes)
  /-- `recv` returned `EAGAIN`. -/
  | blocked
  /-- The frame handler was called with this frame. -/
  | delivered (frame : Bytes)
  /-- `Send` was called with this frame. -/
  | submitted (frame : Bytes)
  /-- `send` returned after taking these bytes. -/
  | accepted (chunk : Bytes)
  deriving DecidableEq

/-- The history of one accepted socket. -/
abbrev Journal := List Entry

namespace Journal

/-- The bytes received so far. -/
def received (journal : Journal) : Bytes :=
  journal.flatMap fun
    | .received chunk => chunk
    | _ => []

/-- The bytes received before `recv` last returned `EAGAIN`. -/
def handed (journal : Journal) : Bytes :=
  received (journal.rdropWhile (· ≠ .blocked))

/-- The frames delivered so far. -/
def delivered (journal : Journal) : List Bytes :=
  journal.flatMap fun
    | .delivered frame => [frame]
    | _ => []

/-- The bytes passed to `Send` so far. -/
def submitted (journal : Journal) : Bytes :=
  journal.flatMap fun
    | .submitted frame => frame
    | _ => []

/-- The bytes the kernel took so far. -/
def accepted (journal : Journal) : Bytes :=
  journal.flatMap fun
    | .accepted chunk => chunk
    | _ => []

section Simp

variable (left right journal : Journal) (entry : Entry) (chunks : List Bytes)

@[simp] theorem received_nil : received [] = [] := rfl
@[simp] theorem delivered_nil : delivered [] = [] := rfl
@[simp] theorem submitted_nil : submitted [] = [] := rfl
@[simp] theorem accepted_nil : accepted [] = [] := rfl

@[simp] theorem received_append : received (left ++ right) = received left ++ received right :=
  List.flatMap_append

@[simp] theorem delivered_append : delivered (left ++ right) = delivered left ++ delivered right :=
  List.flatMap_append

@[simp] theorem submitted_append : submitted (left ++ right) = submitted left ++ submitted right :=
  List.flatMap_append

@[simp] theorem accepted_append : accepted (left ++ right) = accepted left ++ accepted right :=
  List.flatMap_append

@[simp] theorem received_cons : received (entry :: journal) =
    (match entry with
      | .received chunk => chunk
      | _ => []) ++ received journal := rfl

@[simp] theorem delivered_cons : delivered (entry :: journal) =
    (match entry with
      | .delivered frame => [frame]
      | _ => []) ++ delivered journal := rfl

@[simp] theorem submitted_cons : submitted (entry :: journal) =
    (match entry with
      | .submitted frame => frame
      | _ => []) ++ submitted journal := rfl

@[simp] theorem accepted_cons : accepted (entry :: journal) =
    (match entry with
      | .accepted chunk => chunk
      | _ => []) ++ accepted journal := rfl

@[simp] theorem received_map_received : received (chunks.map .received) = chunks.flatten := by
  induction chunks <;> simp_all

@[simp] theorem delivered_map_received : delivered (chunks.map .received) = [] := by
  induction chunks <;> simp_all

@[simp] theorem submitted_map_received : submitted (chunks.map .received) = [] := by
  induction chunks <;> simp_all

@[simp] theorem accepted_map_received : accepted (chunks.map .received) = [] := by
  induction chunks <;> simp_all

@[simp] theorem received_map_accepted : received (chunks.map .accepted) = [] := by
  induction chunks <;> simp_all

@[simp] theorem delivered_map_accepted : delivered (chunks.map .accepted) = [] := by
  induction chunks <;> simp_all

@[simp] theorem submitted_map_accepted : submitted (chunks.map .accepted) = [] := by
  induction chunks <;> simp_all

@[simp] theorem accepted_map_accepted : accepted (chunks.map .accepted) = chunks.flatten := by
  induction chunks <;> simp_all

@[simp] theorem handed_nil : handed [] = [] := rfl

@[simp] theorem handed_concat_blocked : handed (journal ++ [.blocked]) = received journal := by
  simp [handed, List.rdropWhile_concat_neg]

end Simp

/-- Only `EAGAIN` hands over the bytes received so far. -/
theorem handed_append_of_notMem {journal entries : Journal} (quiet : .blocked ∉ entries) :
    handed (journal ++ entries) = handed journal := by
  induction entries using List.reverseRecOn with
  | nil => simp
  | append_singleton entries entry ih =>
      simp only [List.mem_append, List.mem_singleton, not_or] at quiet
      rw [← ih quiet.1, ← List.append_assoc, handed, List.rdropWhile_concat_pos]
      · rfl
      · simpa using fun same => quiet.2 same.symm

/-- The bytes before the last `EAGAIN` are the first bytes received. -/
theorem handed_begins (journal : Journal) : journal.handed <+: journal.received := by
  obtain ⟨rest, whole⟩ := List.rdropWhile_prefix (· ≠ Entry.blocked) journal
  rw [handed]
  nth_rewrite 2 [← whole]
  rw [received_append]
  exact List.prefix_append _ _

/-! ## Answering every frame -/

/-- Every delivered frame was answered by `respond`, the kernel took the answers in order up to
`pending`, and at no earlier moment had it taken more than the answers to the frames delivered by
then. -/
structure Balanced (respond : Bytes → Bytes) (journal : Journal) (pending : Bytes) : Prop where
  submitted_eq : journal.submitted = journal.delivered.flatMap respond
  accepted_append : journal.accepted ++ pending = journal.submitted
  moment : ∀ start, start <+: journal →
    accepted start <+: (delivered start).flatMap respond

theorem balanced_nil (respond : Bytes → Bytes) : Balanced respond [] [] where
  submitted_eq := rfl
  accepted_append := rfl
  moment start begins := by simp [List.prefix_nil.mp begins]

/-- What the kernel took is a prefix of the answers. -/
theorem Balanced.accepted_begins {respond : Bytes → Bytes} {journal : Journal} {pending : Bytes}
    (balanced : Balanced respond journal pending) :
    journal.accepted <+: journal.delivered.flatMap respond :=
  balanced.moment journal (List.prefix_refl journal)

theorem moment_concat {respond : Bytes → Bytes} {journal : Journal} {entry : Entry}
    (moment : ∀ start, start <+: journal →
      accepted start <+: (delivered start).flatMap respond)
    (now : accepted (journal ++ [entry]) <+: (delivered (journal ++ [entry])).flatMap respond) :
    ∀ start, start <+: journal ++ [entry] →
      accepted start <+: (delivered start).flatMap respond := by
  intro start begins
  rcases List.prefix_concat_iff.mp begins with rfl | earlier
  · exact now
  · exact moment start earlier

theorem Balanced.receive {respond : Bytes → Bytes} {journal : Journal} {pending : Bytes}
    (balanced : Balanced respond journal pending) (chunks : List Bytes) :
    Balanced respond (journal ++ chunks.map .received) pending := by
  induction chunks generalizing journal with
  | nil => simpa using balanced
  | cons chunk chunks ih =>
      have one : Balanced respond (journal ++ [.received chunk]) pending :=
        { submitted_eq := by simpa using balanced.submitted_eq
          accepted_append := by simpa using balanced.accepted_append
          moment := moment_concat balanced.moment (by simpa using balanced.accepted_begins) }
      simpa using ih one

theorem Balanced.block {respond : Bytes → Bytes} {journal : Journal} {pending : Bytes}
    (balanced : Balanced respond journal pending) :
    Balanced respond (journal ++ [.blocked]) pending where
  submitted_eq := by simpa using balanced.submitted_eq
  accepted_append := by simpa using balanced.accepted_append
  moment := moment_concat balanced.moment (by simpa using balanced.accepted_begins)

/-- The kernel takes chunks off the front of what is pending. -/
theorem Balanced.accept {respond : Bytes → Bytes} {journal : Journal} (chunks : List Bytes)
    {left : Bytes} (balanced : Balanced respond journal (chunks.flatten ++ left)) :
    Balanced respond (journal ++ chunks.map .accepted) left := by
  induction chunks generalizing journal with
  | nil => simpa using balanced
  | cons chunk chunks ih =>
      have balance : journal.accepted ++ chunk ++ (chunks.flatten ++ left) = journal.submitted := by
        simpa using balanced.accepted_append
      have one : Balanced respond (journal ++ [.accepted chunk]) (chunks.flatten ++ left) :=
        { submitted_eq := by simpa using balanced.submitted_eq
          accepted_append := by simpa using balance
          moment := moment_concat balanced.moment
            ⟨chunks.flatten ++ left, by simpa [← balanced.submitted_eq] using balance⟩ }
      simpa using ih one

/-- A frame is delivered and its answer is queued behind what is pending. -/
theorem Balanced.answer {respond : Bytes → Bytes} {journal : Journal} {pending : Bytes}
    (balanced : Balanced respond journal pending) (frame : Bytes) :
    Balanced respond (journal ++ [.delivered frame, .submitted (respond frame)])
      (pending ++ respond frame) := by
  have answered : journal.accepted <+: journal.delivered.flatMap respond ++ respond frame :=
    balanced.accepted_begins.trans (List.prefix_append _ _)
  have once := moment_concat balanced.moment
    (show accepted (journal ++ [.delivered frame]) <+: _ by simpa using answered)
  have twice := moment_concat once
    (show accepted (journal ++ [.delivered frame] ++ [.submitted (respond frame)]) <+: _ by
      simpa using answered)
  refine ⟨?_, ?_, by simpa using twice⟩
  · simp [balanced.submitted_eq]
  · simp [← balanced.accepted_append]

end Journal

end Hxrpc
