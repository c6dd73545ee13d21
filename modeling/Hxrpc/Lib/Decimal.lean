import Hxrpc.Lib.BigEndian

/-!
# Decimal numerals over bytes

The ASCII digits of a natural number, the value of a string of digits, and byte strings made of two
parts with a separator between them.
-/

namespace Decimal

/-- The ASCII digits of `n`, most significant first and without leading zeros. -/
def digits (n : Nat) : Bytes :=
  (Nat.toDigits 10 n).map fun digit => UInt8.ofNat digit.toNat

/-- An ASCII digit. -/
def IsDigit (byte : UInt8) : Prop :=
  48 ≤ byte.toNat ∧ byte.toNat ≤ 57

instance (byte : UInt8) : Decidable (IsDigit byte) :=
  inferInstanceAs (Decidable (_ ∧ _))

/-- The number that a string of digits denotes. -/
def value (numeral : Bytes) : Nat :=
  numeral.foldl (fun front digit => 10 * front + (digit.toNat - 48)) 0

theorem digits_ne_nil (n : Nat) : digits n ≠ [] := by
  simp [digits, Nat.toDigits_ne_nil]

/-- The byte of a digit has the code of the digit. -/
theorem toNat_of_mem_toDigits {n : Nat} {digit : Char} (member : digit ∈ Nat.toDigits 10 n) :
    48 ≤ digit.toNat ∧ digit.toNat ≤ 57 ∧ (UInt8.ofNat digit.toNat).toNat = digit.toNat := by
  have range : 48 ≤ digit.toNat ∧ digit.toNat ≤ 57 :=
    Char.isDigit_iff_toNat.mp (Nat.isDigit_of_mem_toDigits (by decide) (Nat.le_refl 10) member)
  refine ⟨range.1, range.2, ?_⟩
  rw [UInt8.toNat_ofNat']
  omega

/-- The digits of a number are digits. -/
theorem isDigit_of_mem_digits {n : Nat} {byte : UInt8} (member : byte ∈ digits n) :
    IsDigit byte := by
  obtain ⟨digit, digit_member, rfl⟩ := List.mem_map.mp member
  obtain ⟨lower, upper, same⟩ := toNat_of_mem_toDigits digit_member
  simp only [IsDigit, same]
  exact ⟨lower, upper⟩

theorem notMem_digits {n : Nat} {byte : UInt8} (other : ¬ IsDigit byte) : byte ∉ digits n :=
  fun member => other (isDigit_of_mem_digits member)

/-- The digits of a number denote it. -/
@[simp] theorem value_digits (n : Nat) : value (digits n) = n := by
  have fold_eq : ∀ (chars : List Char) (front : Nat), (∀ digit ∈ chars,
      (UInt8.ofNat digit.toNat).toNat = digit.toNat) →
      (chars.map fun digit => UInt8.ofNat digit.toNat).foldl
        (fun front digit => 10 * front + (digit.toNat - 48)) front =
          Nat.ofDigitChars 10 chars front := by
    intro chars
    induction chars with
    | nil => simp
    | cons digit chars ih =>
        intro front codes
        rw [List.map_cons, List.foldl_cons, codes digit List.mem_cons_self,
          Nat.ofDigitChars_cons]
        exact ih _ fun other member => codes other (List.mem_cons_of_mem digit member)
  rw [value, digits, fold_eq _ _ fun digit member => (toNat_of_mem_toDigits member).2.2,
    Nat.ofDigitChars_ten_toDigits]

theorem digits_injective : Function.Injective digits := fun left right same => by
  rw [← value_digits left, same, value_digits]

/-- A separator that the second parts lack splits a string in one way only. -/
theorem append_cons_inj_of_notMem {α : Type} {separator : α} {left right front behind : List α}
    (front_free : separator ∉ front) (behind_free : separator ∉ behind)
    (same : left ++ separator :: front = right ++ separator :: behind) :
    left = right ∧ front = behind := by
  rcases List.append_eq_append_iff.mp same with
    ⟨middle, right_eq, rest_eq⟩ | ⟨middle, left_eq, rest_eq⟩
  · cases middle with
    | nil => simpa [eq_comm] using And.intro right_eq rest_eq
    | cons head tail =>
        have front_eq : front = tail ++ separator :: behind := (List.cons.inj rest_eq).2
        simp [front_eq] at front_free
  · cases middle with
    | nil => simpa [eq_comm] using And.intro left_eq rest_eq
    | cons head tail =>
        have behind_eq : behind = tail ++ separator :: front := (List.cons.inj rest_eq).2
        simp [behind_eq] at behind_free

end Decimal
