import Hxrpc.Types
import Mathlib.Data.List.DropRight

/-!
# Strings

`TrimCopy`, `StripQuotes` and `CountIndent`, and what they compute in words that do not mention
them.
-/

namespace Hxrpc

namespace Config

/-- A double quote. -/
def doubleQuote : UInt8 := 34
/-- A single quote. -/
def singleQuote : UInt8 := 39

/-- One of `" \t"`. -/
def isIndent (byte : UInt8) : Bool :=
  byte = 32 ∨ byte = 9

/-- One of `" \t\r\n"`. -/
def isBlank (byte : UInt8) : Bool :=
  byte = 32 ∨ byte = 9 ∨ byte = 13 ∨ byte = 10

/-- `TrimCopy`. -/
def trimCopy (value : Bytes) : Bytes :=
  (value.dropWhile isBlank).rdropWhile isBlank

/-- `StripQuotes`. -/
def stripQuotes (value : Bytes) : Bytes :=
  if 2 ≤ value.length ∧
      (value.head? = some doubleQuote ∧ value.getLast? = some doubleQuote ∨
        value.head? = some singleQuote ∧ value.getLast? = some singleQuote) then
    (value.drop 1).take (value.length - 2)
  else value

/-- `CountIndent`. -/
def countIndent (line : Bytes) : Nat :=
  (line.takeWhile isIndent).length

/-- Trimming takes blanks off both ends, and nothing else. -/
theorem trimCopy_spec (value : Bytes) :
    ∃ front back, value = front ++ trimCopy value ++ back ∧
      (∀ byte ∈ front, isBlank byte = true) ∧ (∀ byte ∈ back, isBlank byte = true) ∧
      (∀ byte, (trimCopy value).head? = some byte → isBlank byte = false) ∧
      ∀ byte, (trimCopy value).getLast? = some byte → isBlank byte = false := by
  refine ⟨value.takeWhile isBlank, (value.dropWhile isBlank).rtakeWhile isBlank, ?_, ?_, ?_, ?_, ?_⟩
  · rw [List.append_assoc, trimCopy, List.rdropWhile_append_rtakeWhile,
      List.takeWhile_append_dropWhile]
  · intro byte member
    exact List.mem_takeWhile_imp member
  · intro byte member
    exact List.mem_rtakeWhile_imp member
  · intro byte first
    obtain ⟨rest, whole⟩ := List.rdropWhile_prefix isBlank (value.dropWhile isBlank)
    have stopped := List.head?_dropWhile_not isBlank value
    rw [← whole, ← trimCopy, List.head?_append, first] at stopped
    exact stopped
  · intro byte last
    have nonempty : trimCopy value ≠ [] := fun empty => by simp [empty] at last
    rw [List.getLast?_eq_some_getLast nonempty] at last
    obtain rfl := Option.some.inj last
    exact Bool.eq_false_iff.mpr (List.rdropWhile_last_not isBlank _ nonempty)

/-- A string of blanks. -/
abbrev Blanks := { blanks : Bytes // ∀ byte ∈ blanks, isBlank byte = true }

theorem notMem_of_blank {byte : UInt8} (solid : isBlank byte = false) {blanks : Bytes}
    (blank : ∀ byte ∈ blanks, isBlank byte = true) : byte ∉ blanks := by
  intro member
  rw [blank byte member] at solid
  cases solid

/-- No blank stands at either end. -/
structure Trimmed (value : Bytes) : Prop where
  first : ∀ byte, value.head? = some byte → isBlank byte = false
  last : ∀ byte, value.getLast? = some byte → isBlank byte = false

theorem trimCopy_of_trimmed {value : Bytes} (trimmed : Trimmed value) : trimCopy value = value := by
  cases value with
  | nil => rfl
  | cons head rest =>
      have head_solid : ¬ isBlank head = true := Bool.eq_false_iff.mp (trimmed.first head rfl)
      rw [trimCopy, List.dropWhile_cons_of_neg head_solid, List.rdropWhile_eq_self_iff]
      intro nonempty
      exact Bool.eq_false_iff.mp
        (trimmed.last _ (List.getLast?_eq_some_getLast nonempty))

theorem trimCopy_append_left (blanks : Blanks) (value : Bytes) :
    trimCopy (blanks.1 ++ value) = trimCopy value := by
  rw [trimCopy, List.dropWhile_append_of_pos blanks.2, trimCopy]

theorem trimCopy_append_right (value : Bytes) (blanks : Blanks) :
    trimCopy (value ++ blanks.1) = trimCopy value := by
  have all : ∀ byte ∈ blanks.1.reverse, isBlank byte = true :=
    fun byte member => blanks.2 byte (List.mem_reverse.mp member)
  have off_right : ∀ front : Bytes,
      (front ++ blanks.1).rdropWhile isBlank = front.rdropWhile isBlank := by
    intro front
    rw [List.rdropWhile, List.reverse_append, List.dropWhile_append_of_pos all, List.rdropWhile]
  rw [trimCopy, List.dropWhile_append, trimCopy]
  cases behind : value.dropWhile isBlank with
  | nil => simp [List.dropWhile_eq_nil_iff.mpr blanks.2]
  | cons head rest =>
      have front := off_right (head :: rest)
      simpa using front

/-- Where the first occurrence of a byte cuts a string. -/
theorem cut_idxOf? (byte : UInt8) (string : Bytes) :
    match string.idxOf? byte with
    | none => byte ∉ string
    | some index => byte ∈ string ∧ string.take index = string.takeWhile (· ≠ byte) ∧
        string.drop (index + 1) = (string.dropWhile (· ≠ byte)).drop 1 := by
  induction string with
  | nil => simp
  | cons head rest ih =>
      rw [List.idxOf?_cons]
      by_cases same : head = byte
      · simp [same]
      · cases found : rest.idxOf? byte with
        | none =>
            rw [found] at ih
            simp [same, Ne.symm same, ih]
        | some index =>
            rw [found] at ih
            simp [same, Ne.symm same, ih]

theorem stripQuotes_quoted {quote : UInt8} (known : quote = doubleQuote ∨ quote = singleQuote)
    (word : Bytes) : stripQuotes (quote :: word ++ [quote]) = word := by
  have first : (quote :: word ++ [quote]).head? = some quote := rfl
  have last : (quote :: word ++ [quote]).getLast? = some quote :=
    List.getLast?_append_of_ne_nil _ (List.cons_ne_nil _ _)
  have long : (quote :: word ++ [quote]).length = word.length + 2 := by simp
  have ends : quote = doubleQuote ∧ quote = doubleQuote ∨
      quote = singleQuote ∧ quote = singleQuote := by
    rcases known with double | single
    · exact Or.inl ⟨double, double⟩
    · exact Or.inr ⟨single, single⟩
  rw [stripQuotes, first, last, long]
  simp only [Option.some.injEq]
  rw [if_pos ⟨by omega, ends⟩]
  simp

/-- A text without the one pair of quotes around it, if there is one. -/
def Unquotes (value result : Bytes) : Prop :=
  (∃ quote ∈ text "\"'", value = quote :: result ++ [quote]) ∨
    result = value ∧ ∀ quote ∈ text "\"'", ∀ inner, value ≠ quote :: inner ++ [quote]

theorem mem_quotes_iff {quote : UInt8} :
    quote ∈ text "\"'" ↔ quote = doubleQuote ∨ quote = singleQuote := by
  rw [show text "\"'" = [doubleQuote, singleQuote] from rfl, List.mem_cons, List.mem_singleton]

/-- What starts and ends with one quote stands between two of them. -/
theorem eq_quoted {value : Bytes} (long : 2 ≤ value.length) {quote : UInt8}
    (first : value.head? = some quote) (last : value.getLast? = some quote) :
    ∃ inner, value = quote :: inner ++ [quote] := by
  cases value with
  | nil => cases first
  | cons head rest =>
      obtain rfl := Option.some.inj first
      have rest_ne : rest ≠ [] := by
        rintro rfl
        simp at long
      rw [List.getLast?_cons_of_ne_nil rest_ne] at last
      exact ⟨rest.dropLast, by rw [List.cons_append, List.dropLast_append_getLast? _ last]⟩

/-- `StripQuotes` takes one matching pair of quotes off, or nothing if there is none. -/
theorem stripQuotes_eq_iff {value result : Bytes} :
    stripQuotes value = result ↔ Unquotes value result := by
  have strips : ∀ quote ∈ text "\"'", ∀ inner, stripQuotes (quote :: inner ++ [quote]) = inner :=
    fun quote known inner => stripQuotes_quoted (mem_quotes_iff.mp known) inner
  constructor
  · rintro rfl
    by_cases quoted : ∃ quote ∈ text "\"'", ∃ inner, value = quote :: inner ++ [quote]
    · obtain ⟨quote, known, inner, rfl⟩ := quoted
      exact Or.inl ⟨quote, known, by rw [strips quote known]⟩
    · have unquoted : ∀ quote ∈ text "\"'", ∀ inner, value ≠ quote :: inner ++ [quote] :=
        fun quote known inner same => quoted ⟨quote, known, inner, same⟩
      refine Or.inr ⟨?_, unquoted⟩
      rw [stripQuotes, if_neg]
      rintro ⟨long, ⟨first, last⟩ | ⟨first, last⟩⟩
      · obtain ⟨inner, same⟩ := eq_quoted long first last
        exact unquoted doubleQuote (mem_quotes_iff.mpr (Or.inl rfl)) inner same
      · obtain ⟨inner, same⟩ := eq_quoted long first last
        exact unquoted singleQuote (mem_quotes_iff.mpr (Or.inr rfl)) inner same
  · rintro (⟨quote, known, rfl⟩ | ⟨rfl, unquoted⟩)
    · exact strips quote known result
    · rw [stripQuotes, if_neg]
      rintro ⟨long, ⟨first, last⟩ | ⟨first, last⟩⟩
      · obtain ⟨inner, same⟩ := eq_quoted long first last
        exact unquoted doubleQuote (mem_quotes_iff.mpr (Or.inl rfl)) inner same
      · obtain ⟨inner, same⟩ := eq_quoted long first last
        exact unquoted singleQuote (mem_quotes_iff.mpr (Or.inr rfl)) inner same

/-- A text without the blanks at its ends. -/
def Trims (value result : Bytes) : Prop :=
  ∃ front back, value = front ++ result ++ back ∧
    (∀ byte ∈ front ++ back, byte ∈ text " \t\r\n") ∧
    ∀ byte, result.head? = some byte ∨ result.getLast? = some byte → byte ∉ text " \t\r\n"

theorem isBlank_iff {byte : UInt8} : isBlank byte = true ↔ byte ∈ text " \t\r\n" := by
  rw [show text " \t\r\n" = [32, 9, 13, 10] from rfl]
  simp [isBlank]

/-- `TrimCopy` takes the blanks off both ends. -/
theorem trimCopy_eq_iff {value result : Bytes} : trimCopy value = result ↔ Trims value result := by
  constructor
  · rintro rfl
    obtain ⟨front, back, whole, front_blank, back_blank, first, last⟩ := trimCopy_spec value
    refine ⟨front, back, whole, ?_, ?_⟩
    · intro byte member
      exact isBlank_iff.mp ((List.mem_append.mp member).elim (front_blank byte) (back_blank byte))
    · rintro byte ends blank
      have solid := ends.elim (first byte) (last byte)
      simp [isBlank_iff.mpr blank] at solid
  · rintro ⟨front, back, rfl, blank, solid⟩
    have blanks : ∀ byte ∈ front ++ back, isBlank byte = true :=
      fun byte member => isBlank_iff.mpr (blank byte member)
    have left : ∀ byte ∈ front, isBlank byte = true :=
      fun byte member => blanks byte (List.mem_append_left back member)
    have right : ∀ byte ∈ back, isBlank byte = true :=
      fun byte member => blanks byte (List.mem_append_right front member)
    rw [trimCopy_append_right _ ⟨back, right⟩, trimCopy_append_left ⟨front, left⟩]
    refine trimCopy_of_trimmed ⟨?_, ?_⟩
    · exact fun byte first => Bool.eq_false_iff.mpr
        (mt isBlank_iff.mp (solid byte (Or.inl first)))
    · exact fun byte last => Bool.eq_false_iff.mpr (mt isBlank_iff.mp (solid byte (Or.inr last)))

/-- A text begins with so many spaces and tabs. -/
def Indents (value : Bytes) (count : Nat) : Prop :=
  ∃ front rest, value = front ++ rest ∧ front.length = count ∧
    (∀ byte ∈ front, byte ∈ text " \t") ∧ ∀ byte, rest.head? = some byte → byte ∉ text " \t"

theorem isIndent_iff {byte : UInt8} : isIndent byte = true ↔ byte ∈ text " \t" := by
  rw [show text " \t" = [32, 9] from rfl]
  simp [isIndent]

/-- A prefix of bytes of a kind, with another byte behind it or none, is the longest one. -/
theorem takeWhile_append_eq {kind : UInt8 → Bool} {front rest : Bytes}
    (all : ∀ byte ∈ front, kind byte = true)
    (stops : ∀ byte, rest.head? = some byte → kind byte = false) :
    (front ++ rest).takeWhile kind = front ∧ (front ++ rest).dropWhile kind = rest := by
  rw [List.takeWhile_append_of_pos all, List.dropWhile_append_of_pos all]
  cases rest with
  | nil => simp
  | cons byte rest => simp [stops byte rfl]

/-- `CountIndent` counts the spaces and tabs at the beginning. -/
theorem countIndent_eq_iff {line : Bytes} {count : Nat} :
    countIndent line = count ↔ Indents line count := by
  constructor
  · rintro rfl
    refine ⟨line.takeWhile isIndent, line.dropWhile isIndent,
      (List.takeWhile_append_dropWhile ..).symm, rfl, ?_, ?_⟩
    · exact fun byte member => isIndent_iff.mp (List.mem_takeWhile_imp member)
    · intro byte first indent
      have stopped := List.head?_dropWhile_not isIndent line
      rw [first] at stopped
      simp [isIndent_iff.mpr indent] at stopped
  · rintro ⟨front, rest, rfl, rfl, indent, stops⟩
    have all : ∀ byte ∈ front, isIndent byte = true :=
      fun byte member => isIndent_iff.mpr (indent byte member)
    rw [countIndent, (takeWhile_append_eq all fun byte first =>
      Bool.eq_false_iff.mpr (mt isIndent_iff.mp (stops byte first))).1]

end Config

end Hxrpc
