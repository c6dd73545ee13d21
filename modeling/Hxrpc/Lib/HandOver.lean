/-!
# Items that are handed over in order

One party accepts items and queues them, another takes the queue over and handles it item by item.
As long as a queue is only taken over when nothing is left of the last one, what was accepted is at
every moment what was handled, then what is being handled, then what waits.
-/

section HandOver

variable {Item : Type} {accepted handled current waiting : List Item}

/-- The accepted items are the handled, the current and the waiting ones, in this order. -/
def HandOver (accepted handled current waiting : List Item) : Prop :=
  accepted = handled ++ current ++ waiting

namespace HandOver

theorem nil : HandOver ([] : List Item) [] [] [] := rfl

/-- An item is accepted and waits. -/
theorem accept (handOver : HandOver accepted handled current waiting) (item : Item) :
    HandOver (accepted ++ [item]) handled current (waiting ++ [item]) := by
  rw [HandOver, handOver, List.append_assoc (handled ++ current)]

/-- The queue is taken over when nothing is left of the last one. -/
theorem collect (handOver : HandOver accepted handled [] waiting) :
    HandOver accepted handled waiting [] := by
  rw [HandOver, handOver, List.append_nil, List.append_nil]

/-- The next item is handled. -/
theorem handle {item : Item} (handOver : HandOver accepted handled (item :: current) waiting) :
    HandOver accepted (handled ++ [item]) current waiting := by
  rw [HandOver, handOver, List.append_assoc handled [item] current, List.singleton_append]

/-- With nothing in hand, everything was handled exactly if nothing waits. -/
theorem handled_eq_iff (handOver : HandOver accepted handled [] waiting) :
    handled = accepted ↔ waiting = [] := by
  rw [handOver, List.append_nil]
  simp

end HandOver

end HandOver
