import Mathlib.Data.List.Basic
import Mathlib.Data.List.Flatten
import Mathlib.Tactic.Common

/-!
# Cutting a stream into items

A receiver that accumulates a stream in a buffer and cuts items off its front is described by what
it decides on the buffered prefix: wait for more, refuse the stream, or take an item.  When a
decision that was made survives every continuation of the stream, the items cut from the whole
stream are those cut incrementally from any sequence of partial buffers.  The split of a stream is
the common meaning that every such receiver is compared with.
-/

namespace StreamCut

/-- The decision on a buffered prefix of a stream. -/
inductive Cut (α : Type*) where
  /-- Nothing can be cut before more of the stream is known. -/
  | more
  /-- The stream is refused at this point. -/
  | reject
  /-- One item is complete; `rest` is the buffer behind it. -/
  | item (front rest : List α)

/-- A cutting rule whose positive and negative decisions survive every continuation. -/
structure Cutter (α : Type*) where
  /-- The decision on a buffer. -/
  cut : List α → Cut α
  /-- An item is a nonempty front of the buffer. -/
  cut_item : ∀ {buffer front rest}, cut buffer = .item front rest →
    buffer = front ++ rest ∧ front ≠ []
  /-- An item is complete without the rest of the buffer. -/
  cut_front : ∀ {buffer front rest}, cut buffer = .item front rest → cut front = .item front []
  /-- A complete item stays the same item when the stream goes on. -/
  item_append : ∀ {buffer front rest} (more), cut buffer = .item front rest →
    cut (buffer ++ more) = .item front (rest ++ more)
  /-- A refusal stays a refusal when the stream goes on. -/
  reject_append : ∀ {buffer} (more), cut buffer = .reject → cut (buffer ++ more) = .reject

/-- Where a stream splits: the items in order, what is left, and whether the rest was refused. -/
structure Split (α : Type*) where
  /-- Complete items, in stream order. -/
  items : List (List α)
  /-- The stream behind the last item. -/
  residue : List α
  /-- The residue starts with something refused. -/
  rejected : Bool

namespace Cutter

theorem rest_shorter {α : Type*} (cutter : Cutter α) {buffer front rest : List α}
    (item : cutter.cut buffer = .item front rest) : rest.length < buffer.length := by
  obtain ⟨rfl, front_ne⟩ := cutter.cut_item item
  have := List.length_pos_of_ne_nil front_ne
  simp only [List.length_append]
  omega

/-- Cut items off a stream until none is complete. -/
def split {α : Type*} (cutter : Cutter α) (stream : List α) : Split α :=
  match item : cutter.cut stream with
  | .more => { items := [], residue := stream, rejected := false }
  | .reject => { items := [], residue := stream, rejected := true }
  | .item front rest =>
      have : rest.length < stream.length := cutter.rest_shorter item
      let behind := cutter.split rest
      { behind with items := front :: behind.items }
termination_by stream.length

theorem split_of_more {α : Type*} (cutter : Cutter α) {stream : List α}
    (more : cutter.cut stream = .more) :
    cutter.split stream = { items := [], residue := stream, rejected := false } := by
  rw [split]
  split <;> simp_all

theorem split_of_reject {α : Type*} (cutter : Cutter α) {stream : List α}
    (reject : cutter.cut stream = .reject) :
    cutter.split stream = { items := [], residue := stream, rejected := true } := by
  rw [split]
  split <;> simp_all

theorem split_of_item {α : Type*} (cutter : Cutter α) {stream front rest : List α}
    (item : cutter.cut stream = .item front rest) :
    cutter.split stream =
      { cutter.split rest with items := front :: (cutter.split rest).items } := by
  rw [split]
  split <;> simp_all

/-- Induction over the items of a stream. -/
theorem split_induction {α : Type*} (cutter : Cutter α) {motive : List α → Prop}
    (more : ∀ stream, cutter.cut stream = .more → motive stream)
    (reject : ∀ stream, cutter.cut stream = .reject → motive stream)
    (item : ∀ stream front rest, cutter.cut stream = .item front rest → motive rest →
      motive stream)
    (stream : List α) : motive stream := by
  induction length : stream.length using Nat.strongRecOn generalizing stream with
  | _ n ih =>
      subst length
      match decision : cutter.cut stream with
      | .more => exact more stream decision
      | .reject => exact reject stream decision
      | .item front rest =>
          exact item stream front rest decision (ih _ (cutter.rest_shorter decision) rest rfl)

/-- The split loses nothing of the stream. -/
theorem flatten_items_append_residue {α : Type*} (cutter : Cutter α) (stream : List α) :
    (cutter.split stream).items.flatten ++ (cutter.split stream).residue = stream := by
  induction stream using cutter.split_induction with
  | more stream decision => simp [cutter.split_of_more decision]
  | reject stream decision => simp [cutter.split_of_reject decision]
  | item stream front rest decision ih =>
      rw [cutter.split_of_item decision]
      simp only [List.flatten_cons, List.append_assoc, ih]
      exact (cutter.cut_item decision).1.symm

/-- What is left behind the items is refused or waits for more. -/
theorem cut_residue {α : Type*} (cutter : Cutter α) (stream : List α) :
    cutter.cut (cutter.split stream).residue =
      if (cutter.split stream).rejected then .reject else .more := by
  induction stream using cutter.split_induction with
  | more stream decision => simp [cutter.split_of_more decision, decision]
  | reject stream decision => simp [cutter.split_of_reject decision, decision]
  | item stream front rest decision ih => simpa [cutter.split_of_item decision] using ih

/-- Every item is cut from some rest of the stream. -/
theorem exists_cut_of_mem_items {α : Type*} (cutter : Cutter α) (stream : List α)
    {front : List α} (member : front ∈ (cutter.split stream).items) :
    ∃ buffer rest, cutter.cut buffer = .item front rest := by
  induction stream using cutter.split_induction with
  | more stream decision => simp [cutter.split_of_more decision] at member
  | reject stream decision => simp [cutter.split_of_reject decision] at member
  | item stream first rest decision ih =>
      rw [cutter.split_of_item decision, List.mem_cons] at member
      rcases member with rfl | member
      · exact ⟨stream, rest, decision⟩
      · exact ih member

/-- A refused stream stays refused at the same place. -/
theorem split_append_of_rejected {α : Type*} (cutter : Cutter α) (stream more : List α)
    (rejected : (cutter.split stream).rejected = true) :
    cutter.split (stream ++ more) =
      { cutter.split stream with residue := (cutter.split stream).residue ++ more } := by
  induction stream using cutter.split_induction with
  | more stream decision => simp [cutter.split_of_more decision] at rejected
  | reject stream decision =>
      rw [cutter.split_of_reject decision,
        cutter.split_of_reject (cutter.reject_append more decision)]
  | item stream front rest decision ih =>
      rw [cutter.split_of_item decision] at rejected ⊢
      rw [cutter.split_of_item (cutter.item_append more decision), ih rejected]

/-- An open stream is cut further from what was left: incremental and whole cutting agree. -/
theorem split_append_of_open {α : Type*} (cutter : Cutter α) (stream more : List α)
    (stays_open : (cutter.split stream).rejected = false) :
    cutter.split (stream ++ more) =
      { cutter.split ((cutter.split stream).residue ++ more) with
        items := (cutter.split stream).items ++
          (cutter.split ((cutter.split stream).residue ++ more)).items } := by
  induction stream using cutter.split_induction with
  | more stream decision => simp [cutter.split_of_more decision]
  | reject stream decision => simp [cutter.split_of_reject decision] at stays_open
  | item stream front rest decision ih =>
      rw [cutter.split_of_item decision] at stays_open ⊢
      rw [cutter.split_of_item (cutter.item_append more decision), ih stays_open]
      rfl

/-- The items of a prefix of the stream are the first items of the stream. -/
theorem items_prefix_append {α : Type*} (cutter : Cutter α) (stream more : List α) :
    (cutter.split stream).items <+: (cutter.split (stream ++ more)).items := by
  cases rejected : (cutter.split stream).rejected with
  | true => simp [cutter.split_append_of_rejected stream more rejected]
  | false => simp [cutter.split_append_of_open stream more rejected]

/-- The items of a stream of chunks, each of which is one item or is refused, are its first
chunks. -/
theorem items_flatten_begins {α : Type*} (cutter : Cutter α) {chunks : List (List α)}
    (decided : ∀ chunk ∈ chunks,
      cutter.cut chunk = .item chunk [] ∨ cutter.cut chunk = .reject) :
    (cutter.split chunks.flatten).items <+: chunks := by
  induction chunks with
  | nil =>
      match decision : cutter.cut [] with
      | .more => simp [cutter.split_of_more decision]
      | .reject => simp [cutter.split_of_reject decision]
      | .item front rest =>
          obtain ⟨whole, front_ne⟩ := cutter.cut_item decision
          exact absurd (List.append_eq_nil_iff.mp whole.symm).1 front_ne
  | cons chunk chunks ih =>
      rw [List.flatten_cons]
      rcases decided chunk List.mem_cons_self with item | reject
      · rw [cutter.split_of_item (cutter.item_append chunks.flatten item)]
        exact List.cons_prefix_cons.mpr ⟨rfl,
          ih fun other member => decided other (List.mem_cons_of_mem chunk member)⟩
      · rw [cutter.split_of_reject (cutter.reject_append chunks.flatten reject)]
        exact List.nil_prefix

/-- The continuation of a stream brings no further item exactly when the items of the whole stream
end within the stream. -/
theorem items_append_eq_iff {α : Type*} (cutter : Cutter α) (stream more : List α) :
    (cutter.split (stream ++ more)).items = (cutter.split stream).items ↔
      (cutter.split (stream ++ more)).items.flatten.length ≤ stream.length := by
  have whole := congrArg List.length (cutter.flatten_items_append_residue stream)
  rw [List.length_append] at whole
  constructor
  · intro same
    rw [same]
    omega
  intro within
  cases rejected : (cutter.split stream).rejected with
  | true => rw [cutter.split_append_of_rejected stream more rejected]
  | false =>
      have waits := cutter.cut_residue stream
      simp only [rejected, Bool.false_eq_true, if_false] at waits
      rw [cutter.split_append_of_open stream more rejected] at within ⊢
      simp only [List.flatten_append, List.length_append] at within
      match decision : cutter.cut ((cutter.split stream).residue ++ more) with
      | .more => simp [cutter.split_of_more decision]
      | .reject => simp [cutter.split_of_reject decision]
      | .item front rest =>
          -- The first further item would already be complete in the residue.
          rw [cutter.split_of_item decision, List.flatten_cons, List.length_append] at within
          have begins : front <+: (cutter.split stream).residue :=
            List.prefix_of_prefix_length_le ⟨rest, (cutter.cut_item decision).1.symm⟩
              (List.prefix_append _ more) (by omega)
          obtain ⟨left, residue_eq⟩ := begins
          have complete := cutter.item_append left (cutter.cut_front decision)
          rw [residue_eq, waits] at complete
          cases complete

end Cutter

end StreamCut
