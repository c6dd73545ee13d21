import Mathlib.Data.List.Nodup
import Mathlib.Data.List.Count
import Mathlib.Data.List.Perm.Subperm

/-!
# Numbered items that are only moved

Items get consecutive numbers when they are issued.  Afterwards they are moved between places or
dropped, never copied: as long as no place gains what no place had, no number is in two places.
-/

section Ledger

variable {Item : Type} {number : Item → Nat} {issued : Nat} {items others : List Item}

/-- The numbers of these items were issued, and no number stands there twice. -/
structure Ledger (number : Item → Nat) (issued : Nat) (items : List Item) : Prop where
  nodup : (items.map number).Nodup
  below : ∀ item ∈ items, number item < issued

namespace Ledger

theorem nil (number : Item → Nat) : Ledger number 0 [] := by
  constructor <;> simp

/-- The next item is issued. -/
theorem issue (ledger : Ledger number issued items) {item : Item} (next : number item = issued) :
    Ledger number (issued + 1) (item :: items) := by
  constructor
  · rw [List.map_cons, List.nodup_cons]
    refine ⟨?_, ledger.nodup⟩
    intro member
    obtain ⟨other, other_member, same⟩ := List.mem_map.mp member
    have below := ledger.below other other_member
    omega
  · intro other member
    rcases List.mem_cons.mp member with rfl | member
    · omega
    · have below := ledger.below other member
      omega

theorem of_subperm (ledger : Ledger number issued items) (moved : others.Subperm items) :
    Ledger number issued others := by
  constructor
  · obtain ⟨middle, same, sublist⟩ := moved
    exact (same.map number).nodup_iff.mp (ledger.nodup.sublist (sublist.map number))
  · intro item member
    exact ledger.below item (moved.subset member)

/-- Items are moved or dropped: nothing is there more often than before. -/
theorem of_count [DecidableEq Item] (ledger : Ledger number issued items)
    (moved : ∀ item, others.count item ≤ items.count item) : Ledger number issued others :=
  ledger.of_subperm (List.subperm_iff_count.mpr moved)

/-- Marks that tell the issued numbers apart tell the items apart. -/
theorem nodup_map {Mark : Type} (ledger : Ledger number issued items) (mark : Item → Mark)
    (tells : ∀ left ∈ items, ∀ right ∈ items, mark left = mark right →
      number left = number right) : (items.map mark).Nodup := by
  have nodup : items.Nodup := List.Nodup.of_map number ledger.nodup
  apply nodup.map_on
  intro left left_member right right_member same
  exact List.inj_on_of_nodup_map ledger.nodup left_member right_member
    (tells left left_member right right_member same)

end Ledger

end Ledger
