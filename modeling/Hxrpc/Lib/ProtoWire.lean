import Hxrpc.Lib.BigEndian
import Mathlib.Data.List.Basic
import Mathlib.Tactic.Ring
import Mathlib.Tactic.NormNum
import Mathlib.Tactic.Positivity

/-!
# Tagged records on the wire

Base-128 varints and the tagged records built from them: a number tag with a varint value, or with
a length-delimited byte string.  A sequence of valid records is read back exactly.
-/

namespace ProtoWire

/-- At most `groups` base-128 groups of `n`, least significant first, with continuation bits. -/
def writeVarint : Nat → Nat → Bytes
  | 0, _ => []
  | groups + 1, n =>
      if n < 128 then [UInt8.ofNat n]
      else UInt8.ofNat (n % 128 + 128) :: writeVarint groups (n / 128)

/-- Read a varint of at most `groups` groups from the front of a byte string. -/
def readVarint : Nat → Bytes → Option (Nat × Bytes)
  | 0, _ => none
  | _ + 1, [] => none
  | groups + 1, byte :: rest =>
      if byte.toNat < 128 then some (byte.toNat, rest)
      else (readVarint groups rest).map fun high => (byte.toNat - 128 + 128 * high.1, high.2)

/-- A varint that fits its groups is read back, whatever follows it. -/
theorem readVarint_writeVarint (groups n : Nat) (rest : Bytes) (fits : n < 128 ^ (groups + 1)) :
    readVarint (groups + 1) (writeVarint (groups + 1) n ++ rest) = some (n, rest) := by
  induction groups generalizing n with
  | zero =>
      have small : n < 128 := by simpa using fits
      have value : (UInt8.ofNat n).toNat = n := by
        rw [UInt8.toNat_ofNat']
        omega
      simp [writeVarint, readVarint, value, small]
  | succ groups ih =>
      rw [writeVarint]
      split
      · rename_i small
        have value : (UInt8.ofNat n).toNat = n := by
          rw [UInt8.toNat_ofNat']
          omega
        simp [readVarint, value, small]
      · have value : (UInt8.ofNat (n % 128 + 128)).toNat = n % 128 + 128 := by
          rw [UInt8.toNat_ofNat']
          omega
        have high_fits : n / 128 < 128 ^ (groups + 1) := by
          rw [Nat.div_lt_iff_lt_mul (by omega), ← Nat.pow_succ]
          exact fits
        rw [List.cons_append, readVarint, ih _ high_fits, value, if_neg (by omega)]
        simp only [Option.map_some, Option.some.injEq, Prod.mk.injEq, and_true]
        omega

theorem writeVarint_ne_nil (groups n : Nat) : writeVarint (groups + 1) n ≠ [] := by
  rw [writeVarint]
  split <;> simp

theorem length_writeVarint (groups n : Nat) : (writeVarint groups n).length ≤ groups := by
  induction groups generalizing n with
  | zero => simp [writeVarint]
  | succ groups ih =>
      rw [writeVarint]
      split
      · simp
      · simpa using ih (n / 128)

/-- One tagged record. -/
inductive Record where
  /-- Wire type 0. -/
  | varint (number value : Nat)
  /-- Wire type 2. -/
  | delimited (number : Nat) (bytes : Bytes)

namespace Record

/-- A record whose tag, value and length all fit ten varint groups. -/
def Valid : Record → Prop
  | varint number value => 0 < number ∧ number < 2 ^ 29 ∧ value < 2 ^ 64
  | delimited number bytes => 0 < number ∧ number < 2 ^ 29 ∧ bytes.length < 2 ^ 64

/-- The bytes of one record: tag, then value or length and contents. -/
def write : Record → Bytes
  | varint number value => writeVarint 10 (number * 8) ++ writeVarint 10 value
  | delimited number bytes =>
      writeVarint 10 (number * 8 + 2) ++ (writeVarint 10 bytes.length ++ bytes)

/-- Read one record; a zero number or another wire type is refused. -/
def read (input : Bytes) : Option (Record × Bytes) :=
  match readVarint 10 input with
  | none => none
  | some (tag, rest) =>
      if tag / 8 = 0 then none
      else if tag % 8 = 0 then
        (readVarint 10 rest).map fun value => (varint (tag / 8) value.1, value.2)
      else if tag % 8 = 2 then
        match readVarint 10 rest with
        | none => none
        | some (length, rest) =>
            if rest.length < length then none
            else some (delimited (tag / 8) (rest.take length), rest.drop length)
      else none

theorem read_write (record : Record) (rest : Bytes) (valid : record.Valid) :
    read (record.write ++ rest) = some (record, rest) := by
  have groups : (2 : Nat) ^ 64 ≤ 128 ^ 10 := by norm_num
  cases record with
  | varint number value =>
      obtain ⟨positive, bounded, value_fits⟩ := valid
      have tag_fits : number * 8 < 128 ^ 10 := by omega
      rw [read, write, List.append_assoc, readVarint_writeVarint _ _ _ tag_fits]
      have number_eq : number * 8 / 8 = number := by omega
      simp only [number_eq, if_neg (Nat.pos_iff_ne_zero.mp positive)]
      rw [if_pos (by omega), readVarint_writeVarint _ _ _ (by omega)]
      rfl
  | delimited number bytes =>
      obtain ⟨positive, bounded, length_fits⟩ := valid
      have tag_fits : number * 8 + 2 < 128 ^ 10 := by omega
      rw [read, write, List.append_assoc, readVarint_writeVarint _ _ _ tag_fits]
      have number_eq : (number * 8 + 2) / 8 = number := by omega
      simp only [number_eq, if_neg (Nat.pos_iff_ne_zero.mp positive), List.append_assoc]
      rw [if_neg (by omega), if_pos (by omega), readVarint_writeVarint _ _ _ (by omega)]
      simp

theorem write_length_pos (record : Record) : 0 < record.write.length := by
  cases record <;>
    exact List.length_append ▸
      Nat.add_pos_left (List.length_pos_of_ne_nil (writeVarint_ne_nil 9 _)) _

end Record

/-- Write records one after another. -/
def writeRecords (records : List Record) : Bytes :=
  records.flatMap Record.write

/-- Read at most `fuel` records up to the end of the input. -/
def readRecords : Nat → Bytes → Option (List Record)
  | _, [] => some []
  | 0, _ :: _ => none
  | fuel + 1, byte :: bytes =>
      match Record.read (byte :: bytes) with
      | none => none
      | some (record, rest) => (readRecords fuel rest).map (record :: ·)

theorem readRecords_cons (fuel : Nat) (record : Record) (records : List Record)
    (valid : record.Valid) :
    readRecords (fuel + 1) (writeRecords (record :: records)) =
      (readRecords fuel (writeRecords records)).map (record :: ·) := by
  have read := Record.read_write record (writeRecords records) valid
  have nonempty := record.write_length_pos
  rw [writeRecords, List.flatMap_cons, ← writeRecords]
  generalize input_eq : record.write ++ writeRecords records = input at read
  cases input with
  | nil =>
      have := congrArg List.length input_eq
      simp only [List.length_append, List.length_nil] at this
      omega
  | cons byte bytes => simp only [readRecords, read]

/-- Valid records written one after another are read back exactly. -/
theorem readRecords_writeRecords (records : List Record)
    (valid : ∀ record ∈ records, record.Valid) (fuel : Nat) (enough : records.length ≤ fuel) :
    readRecords fuel (writeRecords records) = some records := by
  induction records generalizing fuel with
  | nil => cases fuel <;> rfl
  | cons record records ih =>
      obtain ⟨smaller, rfl⟩ : ∃ smaller, fuel = smaller + 1 :=
        ⟨fuel - 1, by simp only [List.length_cons] at enough; omega⟩
      rw [readRecords_cons _ _ _ (valid record (by simp))]
      rw [ih (fun other member => valid other (by simp [member])) smaller (by simpa using enough)]
      rfl

theorem length_le_writeRecords (records : List Record) :
    records.length ≤ (writeRecords records).length := by
  induction records with
  | nil => simp [writeRecords]
  | cons record records ih =>
      have := record.write_length_pos
      simp only [writeRecords, List.flatMap_cons, List.length_cons, List.length_append] at ih ⊢
      omega

end ProtoWire
