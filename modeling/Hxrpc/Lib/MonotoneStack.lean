import Mathlib.Data.List.DropRight
import Mathlib.Order.Lattice
import Mathlib.Tactic.SplitIfs

/-!
# Stacks that are popped down to a depth

Items with a depth arrive one after another.  Each pops the items that are at least as deep off the
stack, and some items are pushed afterwards.  What is on the stack behind a sequence are the pushed
items that every later item was deeper than, in their order and strictly deeper one after another.
-/

namespace MonotoneStack

variable {Item Depth : Type} [LinearOrder Depth] (depth : Item → Depth) (opens : Item → Bool)

/-- The stack without the items at the top that are at least as deep as `bound`; the top is last. -/
def pop (bound : Depth) (stack : List Item) : List Item :=
  stack.rdropWhile fun item => bound ≤ depth item

/-- The stack behind the next item. -/
def push (stack : List Item) (item : Item) : List Item :=
  pop depth (depth item) stack ++ if opens item then [item] else []

/-- The items that are pushed and that all later items are deeper than. -/
def visible : List Item → List Item
  | [] => []
  | item :: rest =>
      if opens item = true ∧ ∀ later ∈ rest, depth item < depth later then item :: visible rest
      else visible rest

/-- The items that are pushed and that all later items and then `item` are deeper than. -/
def enclosing (item : Item) : List Item → List Item
  | [] => []
  | outer :: rest =>
      if opens outer = true ∧ ∀ later ∈ rest ++ [item], depth outer < depth later then
        outer :: enclosing item rest
      else enclosing item rest

variable {depth opens}

theorem mem_of_mem_visible {items : List Item} {item : Item}
    (member : item ∈ visible depth opens items) : item ∈ items := by
  induction items with
  | nil => cases member
  | cons head rest ih =>
      simp only [visible] at member
      split_ifs at member
      · rcases List.mem_cons.mp member with rfl | member
        · exact List.mem_cons_self
        · exact List.mem_cons_of_mem head (ih member)
      · exact List.mem_cons_of_mem head (ih member)

/-- Visible items are strictly deeper one after another. -/
theorem pairwise_visible (items : List Item) :
    (visible depth opens items).Pairwise fun outer inner => depth outer < depth inner := by
  induction items with
  | nil => exact List.Pairwise.nil
  | cons head rest ih =>
      simp only [visible]
      split_ifs with sees
      · exact ih.cons fun inner member => sees.2 inner (mem_of_mem_visible member)
      · exact ih

/-- Of a stack that gets strictly deeper, popping leaves the items above the bound. -/
theorem pop_eq_filter {stack : List Item}
    (sorted : stack.Pairwise fun outer inner => depth outer < depth inner) (bound : Depth) :
    pop depth bound stack = stack.filter fun item => depth item < bound := by
  induction stack using List.reverseRecOn with
  | nil => rfl
  | append_singleton stack item ih =>
      obtain ⟨front_sorted, -, below⟩ := List.pairwise_append.mp sorted
      rw [pop, List.filter_append]
      by_cases kept : depth item < bound
      · rw [List.rdropWhile_concat_neg _ _ _ (by simpa using kept)]
        have all_kept : ∀ outer ∈ stack, decide (depth outer < bound) = true := by
          intro outer member
          exact decide_eq_true ((below outer member item (by simp)).trans kept)
        rw [List.filter_eq_self.mpr all_kept]
        simp [kept]
      · rw [List.rdropWhile_concat_pos _ _ _ (by simpa using kept)]
        have popped := ih front_sorted
        rw [pop] at popped
        rw [popped]
        simp [kept]

/-- An item at the top stays if it is not as deep as the bound. -/
theorem pop_concat_of_lt {bound : Depth} {item : Item} (kept : depth item < bound)
    (stack : List Item) : pop depth bound (stack ++ [item]) = stack ++ [item] :=
  List.rdropWhile_concat_neg _ _ _ (by simpa using kept)

/-- An item at the top goes if it is as deep as the bound. -/
theorem pop_concat_of_le {bound : Depth} {item : Item} (hidden : bound ≤ depth item)
    (stack : List Item) : pop depth bound (stack ++ [item]) = pop depth bound stack :=
  List.rdropWhile_concat_pos _ _ _ (by simpa using hidden)

/-- Popping down to a depth in two goes. -/
theorem pop_pop {shallow deep : Depth} (deeper : shallow ≤ deep) (stack : List Item) :
    pop depth shallow (pop depth deep stack) = pop depth shallow stack := by
  induction stack using List.reverseRecOn with
  | nil => rfl
  | append_singleton stack item ih =>
      rcases le_or_gt deep (depth item) with hidden | kept
      · rw [pop_concat_of_le hidden, pop_concat_of_le (deeper.trans hidden), ih]
      · rw [pop_concat_of_lt kept]

/-- Popping looks at the depths only. -/
theorem pop_map {Other : Type} (view : Item → Other) (otherDepth : Other → Depth)
    (bound : Depth) (stack : List Item) :
    pop otherDepth bound (stack.map view) =
      (pop (fun item => otherDepth (view item)) bound stack).map view := by
  rw [pop, pop, List.rdropWhile, List.rdropWhile, ← List.map_reverse, List.dropWhile_map,
    List.map_reverse]
  rfl

/-- The items that enclose a further one are the visible ones above it. -/
theorem enclosing_eq_filter (items : List Item) (item : Item) :
    enclosing depth opens item items =
      (visible depth opens items).filter fun outer => depth outer < depth item := by
  induction items with
  | nil => rfl
  | cons head rest ih =>
      have sees_iff : (∀ later ∈ rest ++ [item], depth head < depth later) ↔
          (∀ later ∈ rest, depth head < depth later) ∧ depth head < depth item := by
        simp only [List.mem_append, List.mem_singleton, or_imp, forall_and, forall_eq]
      rw [enclosing, visible, ih]
      simp only [sees_iff]
      by_cases sees : opens head = true ∧ ∀ later ∈ rest, depth head < depth later
      · by_cases shallower : depth head < depth item
        · rw [if_pos ⟨sees.1, sees.2, shallower⟩, if_pos sees, List.filter_cons,
            if_pos (decide_eq_true shallower)]
        · have hidden : ¬ decide (depth head < depth item) = true := by simpa using shallower
          rw [if_neg fun both => shallower both.2.2, if_pos sees, List.filter_cons,
            if_neg hidden]
      · rw [if_neg fun both => sees ⟨both.1, both.2.1⟩, if_neg sees]

/-- Popping down to a further item leaves the items that enclose it. -/
theorem pop_visible (items : List Item) (item : Item) :
    pop depth (depth item) (visible depth opens items) = enclosing depth opens item items := by
  rw [pop_eq_filter (pairwise_visible items), enclosing_eq_filter]

/-- Behind a further item, what encloses it is visible, and the item itself if it is pushed. -/
theorem visible_concat (items : List Item) (item : Item) :
    visible depth opens (items ++ [item]) =
      enclosing depth opens item items ++ if opens item then [item] else [] := by
  induction items with
  | nil =>
      simp only [List.nil_append, visible, enclosing]
      split_ifs <;> simp_all
  | cons head rest ih =>
      rw [List.cons_append, visible, ih, enclosing]
      split_ifs <;> rfl

/-- The stack behind a sequence of items holds the visible ones. -/
theorem foldl_push (items : List Item) :
    items.foldl (push depth opens) [] = visible depth opens items := by
  induction items using List.reverseRecOn with
  | nil => rfl
  | append_singleton items item ih =>
      rw [List.foldl_append, ih, visible_concat, ← pop_visible]
      rfl

end MonotoneStack
