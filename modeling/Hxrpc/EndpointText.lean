import Hxrpc.Settings

/-!
# Lists of endpoints as text

`Split` cuts a text at every delimiter, and trimming undoes blanks at either end.  So a list of
endpoints can be printed with blanks wherever the parsers trim, and is read back as it was.
-/

namespace Hxrpc

namespace Settings

open Config
open ZkResolver (toString_eq)

/-! ## Splitting -/

/-- The loop splits what stands behind the cursor; `steps` exceeds the bytes that are left. -/
theorem splitLoop_eq (raw : Bytes) (delimiter : UInt8) (steps cursor : Nat)
    (inside : cursor ≤ raw.length) (enough : raw.length - cursor < steps) :
    splitLoop raw delimiter steps cursor = (raw.drop cursor).splitOn delimiter := by
  induction steps generalizing cursor with
  | zero => omega
  | succ steps ih =>
      rw [splitLoop, if_neg (Nat.not_lt.mpr inside)]
      by_cases present : delimiter ∈ raw.drop cursor
      · obtain ⟨front, back, whole, free⟩ := List.eq_append_cons_of_mem present
        have length_eq := congrArg List.length whole
        rw [List.length_drop, List.length_append, List.length_cons] at length_eq
        have behind : raw.drop (cursor + front.length + 1) = back := by
          rw [Nat.add_assoc, ← List.drop_drop, whole, List.drop_length_add_append]
          rfl
        rw [whole, idxOf?_append_cons free]
        simp only
        rw [List.take_left, ih _ (by omega) (by omega), behind,
          List.splitOn_append_cons_self_of_not_mem free]
      · have none_found : (raw.drop cursor).idxOf? delimiter = none :=
          List.idxOf?_eq_none_iff.mpr present
        rw [none_found, List.splitOn_eq_singleton present]

/-- `Split` returns the parts between the delimiters. -/
theorem split_eq (raw : Bytes) (delimiter : UInt8) :
    split raw delimiter = raw.splitOn delimiter := by
  rw [split, splitLoop_eq raw delimiter _ 0 (Nat.zero_le _) (by omega), List.drop_zero]

example : split (text "a,,b,") comma = [text "a", [], text "b", []] := by decide +kernel

/-! ## Blanks -/

theorem isBlank_of_isDigit {byte : UInt8} (digit : Decimal.IsDigit byte) :
    isBlank byte = false := by
  have lower := digit.1
  simp only [isBlank, decide_eq_false_iff_not, ← UInt8.toNat_inj, UInt8.reduceToNat]
  omega

theorem trimmed_digits (n : Nat) : Trimmed (Decimal.digits n) where
  first _ head := isBlank_of_isDigit (Decimal.isDigit_of_mem_digits (List.mem_of_head? head))
  last _ last := isBlank_of_isDigit (Decimal.isDigit_of_mem_digits (List.mem_of_getLast? last))

/-! ## Printing and parsing -/

/-- Blanks around an item and around its colon. -/
structure Spacing where
  /-- In front of the host. -/
  front : Blanks := ⟨[], by simp⟩
  /-- In front of the colon. -/
  beforeColon : Blanks := ⟨[], by simp⟩
  /-- Behind the colon. -/
  afterColon : Blanks := ⟨[], by simp⟩
  /-- Behind the port. -/
  back : Blanks := ⟨[], by simp⟩

/-- `Endpoint::ToString` with blanks. -/
def spaced (spacing : Spacing) (endpoint : Endpoint) : Bytes :=
  spacing.front.1 ++ ((endpoint.host ++ spacing.beforeColon.1) ++
    colon :: (spacing.afterColon.1 ++ Decimal.digits endpoint.port.toNat) ++ spacing.back.1)

/-- Without blanks it is `Endpoint::ToString`. -/
theorem spaced_nil (endpoint : Endpoint) : spaced {} endpoint = endpoint.toString := by
  rw [toString_eq, spaced]
  simp only [List.nil_append, List.append_nil]
  rfl

/-- An endpoint that can stand in a list. -/
structure Listable (endpoint : Endpoint) : Prop where
  host_ne : endpoint.host ≠ []
  port_ne : endpoint.port ≠ 0
  no_colon : colon ∉ endpoint.host
  no_comma : comma ∉ endpoint.host
  trimmed : Trimmed endpoint.host

/-- The comma only stands between the items. -/
theorem comma_notMem_spaced (spacing : Spacing) {endpoint : Endpoint}
    (listable : Listable endpoint) : comma ∉ spaced spacing endpoint := by
  have no_digit : comma ∉ Decimal.digits endpoint.port.toNat := Decimal.notMem_digits (by decide)
  have no_blank : ∀ blanks : Blanks, comma ∉ blanks.1 := fun blanks => notMem_of_blank rfl blanks.2
  have ne : comma ≠ colon := by decide
  simp only [spaced, List.mem_append, List.mem_cons, listable.no_comma, no_blank, no_digit, ne,
    or_self, not_false_eq_true]

theorem trimCopy_spaced (spacing : Spacing) {endpoint : Endpoint} (listable : Listable endpoint) :
    trimCopy (spaced spacing endpoint) =
      (endpoint.host ++ spacing.beforeColon.1) ++
        colon :: (spacing.afterColon.1 ++ Decimal.digits endpoint.port.toNat) := by
  rw [spaced, trimCopy_append_left, trimCopy_append_right]
  apply trimCopy_of_trimmed
  constructor
  · intro byte head
    apply listable.trimmed.first
    rw [List.append_assoc, List.head?_append_of_ne_nil _ listable.host_ne] at head
    exact head
  · intro byte last
    apply (trimmed_digits endpoint.port.toNat).last
    rw [← List.singleton_append, ← List.append_assoc, ← List.append_assoc,
      List.getLast?_append_of_ne_nil _ (Decimal.digits_ne_nil _)] at last
    exact last

/-- An item is read back. -/
theorem parseEndpoint_spaced (spacing : Spacing) {endpoint : Endpoint}
    (listable : Listable endpoint) (fieldName : Bytes) :
    parseEndpoint (trimCopy (spaced spacing endpoint)) fieldName = .ok endpoint := by
  rw [trimCopy_spaced spacing listable, parseEndpoint_eq_ok_iff]
  refine ⟨endpoint.host ++ spacing.beforeColon.1,
    spacing.afterColon.1 ++ Decimal.digits endpoint.port.toNat, endpoint.port.toNat,
    ⟨rfl, ?_⟩, ?_, ?_, ?_⟩
  · rw [List.mem_append, not_or]
    exact ⟨listable.no_colon, notMem_of_blank rfl spacing.beforeColon.2⟩
  · rw [trimCopy_append_left, trimCopy_of_trimmed (trimmed_digits _)]
    exact ZkResolver.stoul_digits (by have := endpoint.port.toNat_lt; omega)
  · rw [trimCopy_append_right, trimCopy_of_trimmed listable.trimmed, UInt16.ofNat_toNat]
  · exact decide_eq_true ⟨listable.host_ne, listable.port_ne⟩

theorem parseItems_spaced (fieldName : Bytes) {items : List (Spacing × Endpoint)}
    (listable : ∀ item ∈ items, Listable item.2) :
    parseItems fieldName (items.map fun item => spaced item.1 item.2) =
      .ok (items.map Prod.snd) := by
  induction items with
  | nil => rfl
  | cons item items ih =>
      have first := parseEndpoint_spaced item.1 (listable item List.mem_cons_self) fieldName
      have others := ih fun other member => listable other (List.mem_cons_of_mem item member)
      simp only [List.map_cons, parseItems, first, others]

/-- A list of endpoints, printed with commas between the items and blanks around them and around
the colons, is read back as it was; `ZkResolver` reads a printed endpoint back. -/
theorem endpoint_texts_parse :
    (∀ (items : List (Spacing × Endpoint)) (fieldName : Bytes), items ≠ [] →
      (∀ item ∈ items, Listable item.2) →
        parseEndpointList
            (List.intercalate [comma] (items.map fun item => spaced item.1 item.2)) fieldName =
          .ok (items.map Prod.snd)) ∧
    (∀ endpoint, spaced {} endpoint = endpoint.toString) ∧
    ∀ endpoint : Endpoint, endpoint.port ≠ 0 → endpoint.host ≠ [] → colon ∉ endpoint.host →
      ZkResolver.parseEndpoint endpoint.toString = .ok endpoint := by
  refine ⟨?_, spaced_nil, ?_⟩
  · intro items fieldName nonempty listable
    have free : ∀ item ∈ items.map fun item => spaced item.1 item.2, comma ∉ item := by
      intro printed member
      obtain ⟨item, item_member, rfl⟩ := List.mem_map.mp member
      exact comma_notMem_spaced item.1 (listable item item_member)
    have parts_ne : (items.map fun item => spaced item.1 item.2) ≠ [] := by
      simpa using nonempty
    rw [parseEndpointList, split_eq, List.splitOn_intercalate comma free parts_ne,
      parseItems_spaced fieldName listable]
  · intro endpoint port_ne host_ne no_colon
    exact ZkResolver.parseEndpoint_toString no_colon host_ne port_ne

/-- Two endpoints, the first with blanks. -/
def sampleItems : List (Spacing × Endpoint) :=
  [({ front := ⟨[32], by simp [isBlank]⟩, beforeColon := ⟨[9], by simp [isBlank]⟩ },
      ⟨text "a", 1⟩), ({}, ⟨text "b b", 65535⟩)]

theorem endpoint_texts_sample :
    parseEndpointList (text " a\t:1,b b:65535") (text "key") =
        .ok [⟨text "a", 1⟩, ⟨text "b b", 65535⟩] ∧
      ZkResolver.parseEndpoint (text "b b:65535") = .ok ⟨text "b b", 65535⟩ := by
  have listable : ∀ item ∈ sampleItems, Listable item.2 := by
    intro item member
    simp only [sampleItems, List.mem_cons, List.not_mem_nil, or_false] at member
    rcases member with rfl | rfl
    · exact ⟨by decide, by decide, by decide, by decide,
        ⟨by simp [text, isBlank], by simp [text, isBlank]⟩⟩
    · exact ⟨by decide, by decide, by decide, by decide,
        ⟨by simp [text, isBlank], by simp [text, isBlank]⟩⟩
  have printed : List.intercalate [comma] (sampleItems.map fun item => spaced item.1 item.2) =
      text " a\t:1,b b:65535" := by decide +kernel
  constructor
  · rw [← printed]
    exact endpoint_texts_parse.1 sampleItems (text "key") (by simp [sampleItems]) listable
  · exact endpoint_texts_parse.2.2 ⟨text "b b", 65535⟩ (by decide) (by decide) (by decide)

end Settings

end Hxrpc
