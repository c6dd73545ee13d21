import Mathlib.Data.List.Basic
import Mathlib.Algebra.Ring.Nat
import Mathlib.Tactic.Common

/-!
# Four-byte big-endian words

Network byte order for 32-bit words over lists of bytes.  Encoding a natural number keeps it modulo
`2 ^ 32`, which is what a cast to an unsigned 32-bit integer before `htonl` keeps of a size.
-/

/-- A byte string. -/
abbrev Bytes := List UInt8

namespace BigEndian

/-- The four bytes of `n`, most significant first; higher bits of `n` are dropped. -/
def encode32 (n : Nat) : Bytes :=
  [UInt8.ofNat (n / 2 ^ 24), UInt8.ofNat (n / 2 ^ 16), UInt8.ofNat (n / 2 ^ 8), UInt8.ofNat n]

/-- Read the first four bytes of a byte string as a big-endian word. -/
def decode32 : Bytes → Nat
  | a :: b :: c :: d :: _ => a.toNat * 2 ^ 24 + b.toNat * 2 ^ 16 + c.toNat * 2 ^ 8 + d.toNat
  | _ => 0

@[simp] theorem length_encode32 (n : Nat) : (encode32 n).length = 4 := rfl

/-- Decoding reads back an encoded word modulo `2 ^ 32`, whatever follows it. -/
@[simp] theorem decode32_encode32_append (n : Nat) (rest : Bytes) :
    decode32 (encode32 n ++ rest) = n % 2 ^ 32 := by
  simp only [encode32, List.cons_append, List.nil_append, decode32, UInt8.toNat_ofNat']
  omega

theorem decode32_lt (word : Bytes) : decode32 word < 2 ^ 32 := by
  rcases word with _ | ⟨a, _ | ⟨b, _ | ⟨c, _ | ⟨d, rest⟩⟩⟩⟩ <;> simp only [decode32] <;> try omega
  have ha := a.toNat_lt
  have hb := b.toNat_lt
  have hc := c.toNat_lt
  have hd := d.toNat_lt
  omega

/-- A word that is complete does not depend on the bytes after it. -/
theorem decode32_append (word rest : Bytes) (complete : 4 ≤ word.length) :
    decode32 (word ++ rest) = decode32 word := by
  rcases word with _ | ⟨a, _ | ⟨b, _ | ⟨c, _ | ⟨d, tail⟩⟩⟩⟩ <;> simp at complete
  rfl

/-- A byte string with a complete word begins with the encoding of that word. -/
theorem encode32_decode32_append_drop (bytes : Bytes) (complete : 4 ≤ bytes.length) :
    encode32 (decode32 bytes) ++ bytes.drop 4 = bytes := by
  rcases bytes with _ | ⟨a, _ | ⟨b, _ | ⟨c, _ | ⟨d, tail⟩⟩⟩⟩ <;> simp at complete
  have ha := a.toNat_lt
  have hb := b.toNat_lt
  have hc := c.toNat_lt
  have hd := d.toNat_lt
  simp only [encode32, decode32, List.drop_succ_cons, List.drop_zero, List.cons_append,
    List.nil_append, List.cons.injEq, and_true]
  refine ⟨?_, ?_, ?_, ?_⟩ <;> apply UInt8.toNat.inj <;> simp only [UInt8.toNat_ofNat'] <;> omega

end BigEndian
