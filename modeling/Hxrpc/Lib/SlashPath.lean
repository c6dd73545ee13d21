import Mathlib.Data.List.Basic
import Mathlib.Tactic.Common

/-!
# Paths with a separator

Words over any alphabet in which one letter separates the components: where the last separator is,
and the paths on the way from the first component to the whole path.
-/

namespace SlashPath

variable {α : Type} [DecidableEq α] (separator : α)

/-- The position of the last separator. -/
def lastIndex : List α → Option Nat
  | [] => none
  | letter :: rest =>
      match lastIndex rest with
      | some index => some (index + 1)
      | none => if letter = separator then some 0 else none

/-- A path is cut in front of each separator behind `front`; the last piece is the whole path. -/
def stems (front : List α) : List α → List (List α)
  | [] => [front]
  | letter :: rest =>
      if letter = separator then front :: stems (front ++ [letter]) rest
      else stems (front ++ [letter]) rest

variable {separator}

theorem lastIndex_eq_none_iff {path : List α} :
    lastIndex separator path = none ↔ separator ∉ path := by
  induction path with
  | nil => simp [lastIndex]
  | cons letter rest ih =>
      rw [List.mem_cons, not_or, ← ih, lastIndex]
      cases lastIndex separator rest with
      | some index => simp
      | none => simp [eq_comm]

theorem lastIndex_append (front : List α) {name : List α} (absent : separator ∉ name) :
    lastIndex separator (front ++ separator :: name) = some front.length := by
  induction front with
  | nil => simp [lastIndex, lastIndex_eq_none_iff.mpr absent]
  | cons letter front ih => simp [lastIndex, ih]

/-- A path with a separator is what stands in front of the last one, and a name behind it. -/
theorem eq_append_of_lastIndex {path : List α} {index : Nat}
    (found : lastIndex separator path = some index) :
    path = path.take index ++ separator :: path.drop (index + 1) ∧
      separator ∉ path.drop (index + 1) := by
  induction path generalizing index with
  | nil => cases found
  | cons letter rest ih =>
      simp only [lastIndex] at found
      split at found
      · rename_i inner rest_found
        obtain rfl := Option.some.inj found
        obtain ⟨split_eq, absent⟩ := ih rest_found
        refine ⟨?_, absent⟩
        rw [List.take_succ_cons, List.drop_succ_cons, List.cons_append, ← split_eq]
      · rename_i rest_none
        split at found
        · rename_i same
          obtain rfl := Option.some.inj found
          exact ⟨by simp [same], lastIndex_eq_none_iff.mp rest_none⟩
        · cases found

theorem stems_of_notMem (front : List α) {rest : List α} (absent : separator ∉ rest) :
    stems separator front rest = [front ++ rest] := by
  induction rest generalizing front with
  | nil => simp [stems]
  | cons letter rest ih =>
      rw [List.mem_cons, not_or] at absent
      rw [stems, if_neg (Ne.symm absent.1), ih _ absent.2, List.append_assoc, List.singleton_append]

theorem stems_append (front : List α) {name : List α} (absent : separator ∉ name)
    (rest : List α) :
    stems separator front (name ++ separator :: rest) =
      (front ++ name) :: stems separator (front ++ name ++ [separator]) rest := by
  induction name generalizing front with
  | nil => simp [stems]
  | cons letter name ih =>
      rw [List.mem_cons, not_or] at absent
      rw [List.cons_append, stems, if_neg (Ne.symm absent.1), ih _ absent.2]
      simp

end SlashPath
