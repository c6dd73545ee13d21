import Hxrpc.Discovery.Resolver
import Mathlib.Algebra.Ring.Int.Defs

/-!
# Numerals in texts

`std::stoul` and `std::stoi` read a number off the front of a text: behind white space and a sign
they take the longest run of digits, and they do not look at what follows.  A text is a numeral only
if nothing stands around the digits.
-/

namespace Hxrpc

namespace Numerals

open ZkResolver

/-- `std::stoi`: the sign and the digits denote an `int`, or it throws. -/
def stoi (bytes : Bytes) : Option Int :=
  let (negative, unsigned) := splitSign (bytes.dropWhile isSpace)
  let numeral := unsigned.takeWhile fun byte => Decimal.IsDigit byte
  if numeral = [] then none
  else
    let number : Int := if negative then -Decimal.value numeral else Decimal.value numeral
    if number < -2 ^ 31 ∨ 2 ^ 31 ≤ number then none else some number

/-- The text is a decimal numeral, from its first byte to its last. -/
def IsNumeral (bytes : Bytes) : Prop :=
  bytes ≠ [] ∧ ∀ byte ∈ bytes, Decimal.IsDigit byte

/-- A text cut into white space, a sign, the first run of digits and the rest. -/
structure Reading (bytes spaces sign numeral rest : Bytes) : Prop where
  whole : bytes = spaces ++ (sign ++ (numeral ++ rest))
  spaces : ∀ byte ∈ spaces, isSpace byte = true
  sign : sign = [] ∨ sign = [43] ∨ sign = [45]
  numeral : IsNumeral numeral
  rest : ∀ byte, rest.head? = some byte → ¬ Decimal.IsDigit byte

/-- Something stands around the digits. -/
def Surrounded (spaces sign rest : Bytes) : Prop :=
  spaces ≠ [] ∨ sign ≠ [] ∨ rest ≠ []

theorem head?_dropWhile_not {α : Type} {p : α → Bool} {list : List α} {first : α}
    (head : (list.dropWhile p).head? = some first) : p first = false := by
  have stopped := List.head?_dropWhile_not p list
  rw [head] at stopped
  exact stopped

/-- A run of bytes ends in front of the first byte that does not belong to it. -/
theorem span_eq {p : UInt8 → Bool} {run rest : Bytes} (all : ∀ byte ∈ run, p byte = true)
    (stop : ∀ byte, rest.head? = some byte → p byte = false) :
    (run ++ rest).takeWhile p = run ∧ (run ++ rest).dropWhile p = rest := by
  rw [List.takeWhile_append_of_pos all, List.dropWhile_append_of_pos all]
  cases rest with
  | nil => simp
  | cons first rest =>
      have other : p first = false := stop first rfl
      simp [other]

namespace Reading

variable {bytes spaces sign numeral rest : Bytes}

/-- What stands behind the sign starts with a digit. -/
theorem head_numeral (reading : Reading bytes spaces sign numeral rest) :
    ∃ digit behind, numeral ++ rest = digit :: behind ∧ Decimal.IsDigit digit := by
  obtain ⟨digit, digits, rfl⟩ := List.exists_cons_of_ne_nil reading.numeral.1
  exact ⟨digit, digits ++ rest, rfl, reading.numeral.2 digit List.mem_cons_self⟩

theorem dropWhile_isSpace (reading : Reading bytes spaces sign numeral rest) :
    bytes.dropWhile isSpace = sign ++ (numeral ++ rest) := by
  rw [reading.whole]
  apply (span_eq reading.spaces _).2
  intro byte head
  rcases reading.sign with rfl | rfl | rfl
  · obtain ⟨digit, behind, numeral_eq, isDigit⟩ := reading.head_numeral
    rw [List.nil_append, numeral_eq] at head
    obtain rfl := Option.some.inj head
    exact isSpace_of_isDigit isDigit
  · obtain rfl := Option.some.inj head
    rfl
  · obtain rfl := Option.some.inj head
    rfl

theorem splitSign_eq (reading : Reading bytes spaces sign numeral rest) :
    splitSign (bytes.dropWhile isSpace) = (decide (sign = [45]), numeral ++ rest) := by
  rw [reading.dropWhile_isSpace]
  rcases reading.sign with rfl | rfl | rfl
  · obtain ⟨digit, behind, numeral_eq, isDigit⟩ := reading.head_numeral
    rw [List.nil_append, numeral_eq]
    simp only [splitSign]
    split
    · rename_i same
      obtain ⟨rfl, -⟩ := List.cons.inj same
      exact absurd isDigit (by decide)
    · rename_i same
      obtain ⟨rfl, -⟩ := List.cons.inj same
      exact absurd isDigit (by decide)
    · rfl
  · rfl
  · rfl

theorem takeWhile_eq (reading : Reading bytes spaces sign numeral rest) :
    ((numeral ++ rest).takeWhile fun byte => decide (Decimal.IsDigit byte)) = numeral := by
  apply (span_eq _ _).1
  · intro byte member
    exact decide_eq_true (reading.numeral.2 byte member)
  · intro byte head
    exact decide_eq_false (reading.rest byte head)

/-- What `std::stoul` returns for a text that starts with a number. -/
theorem stoul_eq (reading : Reading bytes spaces sign numeral rest) :
    stoul bytes =
      if 2 ^ 64 ≤ Decimal.value numeral then none
      else some (if sign = [45] then (2 ^ 64 - Decimal.value numeral) % 2 ^ 64
        else Decimal.value numeral) := by
  simp only [stoul, reading.splitSign_eq, reading.takeWhile_eq, reading.numeral.1, if_false,
    decide_eq_true_eq]

/-- What `std::stoi` returns for a text that starts with a number. -/
theorem stoi_eq (reading : Reading bytes spaces sign numeral rest) :
    stoi bytes =
      let number : Int := if sign = [45] then -Decimal.value numeral else Decimal.value numeral
      if number < -2 ^ 31 ∨ 2 ^ 31 ≤ number then none else some number := by
  simp only [stoi, reading.splitSign_eq, reading.takeWhile_eq, reading.numeral.1, if_false,
    decide_eq_true_eq]

/-- With nothing around the digits the text is the numeral. -/
theorem eq_of_not_surrounded (reading : Reading bytes spaces sign numeral rest)
    (bare : ¬ Surrounded spaces sign rest) : numeral = bytes := by
  simp only [Surrounded, not_or, not_not] at bare
  obtain ⟨rfl, rfl, rfl⟩ := bare
  rw [reading.whole, List.append_nil]
  rfl

/-- With something around the digits the text is no numeral. -/
theorem not_isNumeral (reading : Reading bytes spaces sign numeral rest)
    (surrounded : Surrounded spaces sign rest) : ¬ IsNumeral bytes := by
  intro whole
  have digit : ∀ byte ∈ spaces ++ (sign ++ (numeral ++ rest)), Decimal.IsDigit byte :=
    reading.whole ▸ whole.2
  rcases surrounded with spaced | signed | trailing
  · obtain ⟨space, others, rfl⟩ := List.exists_cons_of_ne_nil spaced
    have blank := reading.spaces space List.mem_cons_self
    rw [isSpace_of_isDigit (digit space (by simp))] at blank
    cases blank
  · rcases reading.sign with rfl | rfl | rfl
    · exact signed rfl
    · exact absurd (digit 43 (by simp)) (by decide)
    · exact absurd (digit 45 (by simp)) (by decide)
  · obtain ⟨first, others, rfl⟩ := List.exists_cons_of_ne_nil trailing
    exact reading.rest first rfl (digit first (by simp))

end Reading

/-- A numeral reads as itself. -/
theorem IsNumeral.reading {bytes : Bytes} (numeral : IsNumeral bytes) :
    Reading bytes [] [] bytes [] where
  whole := by simp
  spaces := by simp
  sign := Or.inl rfl
  numeral := numeral
  rest := by simp

/-- The sign is the byte that is taken off. -/
theorem splitSign_spec (bytes : Bytes) :
    ∃ sign, (sign = [] ∨ sign = [43] ∨ sign = [45]) ∧ bytes = sign ++ (splitSign bytes).2 := by
  simp only [splitSign]
  split
  · exact ⟨[43], by simp⟩
  · exact ⟨[45], by simp⟩
  · exact ⟨[], by simp⟩

/-- A text either starts with a number, or both functions throw. -/
theorem reading_or_none (bytes : Bytes) :
    (∃ spaces sign numeral rest, Reading bytes spaces sign numeral rest) ∨
      stoul bytes = none ∧ stoi bytes = none := by
  obtain ⟨sign, sign_mem, sign_eq⟩ := splitSign_spec (bytes.dropWhile isSpace)
  generalize unsigned_eq : (splitSign (bytes.dropWhile isSpace)).2 = unsigned at sign_eq
  by_cases empty : (unsigned.takeWhile fun byte => decide (Decimal.IsDigit byte)) = []
  · right
    simp only [stoul, stoi, unsigned_eq, empty, if_true, and_self]
  · left
    refine ⟨bytes.takeWhile isSpace, sign, _,
      unsigned.dropWhile fun byte => decide (Decimal.IsDigit byte), ?_, ?_, sign_mem,
      ⟨empty, ?_⟩, ?_⟩
    · rw [List.takeWhile_append_dropWhile, ← sign_eq, List.takeWhile_append_dropWhile]
    · intro byte member
      exact List.mem_takeWhile_imp member
    · intro byte member
      have inside := List.mem_takeWhile_imp member
      exact of_decide_eq_true inside
    · intro byte head
      have outside := head?_dropWhile_not head
      exact of_decide_eq_false outside

end Numerals

end Hxrpc
