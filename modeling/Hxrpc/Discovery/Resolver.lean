import Hxrpc.Discovery.Registrar
import Hxrpc.Lib.Decimal

/-!
# Reading the instances of a method

`ZkResolver` without its concurrency: the endpoint in the data of a node, `RefreshMethod` on a tree
that does not change in the meantime, and `OnMethodChanged`, which takes a path apart again.  The
server lists the names of children in any order.
-/

namespace Hxrpc

open ZooKeeper

namespace ZkClient

/-- `GetData`, into a buffer of 512 bytes.  A node without data leaves a negative length behind,
from which no string can be made: the exception is not caught. -/
def getData (tree : Tree) (path : Bytes) : Option (Except RpcError Bytes) :=
  match zooGet tree path 512 with
  | .error _ => some (.error (zkError "zoo_get failed"))
  | .ok none => none
  | .ok (some data) => some (.ok data)

end ZkClient

namespace ZkResolver

open ZkClient

/-- `isspace`. -/
def isSpace (byte : UInt8) : Bool := byte = 32 ∨ 9 ≤ byte.toNat ∧ byte.toNat ≤ 13

/-- An optional sign; `true` stands for a minus. -/
def splitSign : Bytes → Bool × Bytes
  | 43 :: rest => (false, rest)
  | 45 :: rest => (true, rest)
  | rest => (false, rest)

/-- `std::stoul`: white space, a sign and digits, up to the first other byte.  It throws when there
is no digit or the number has more than 64 bits. -/
def stoul (bytes : Bytes) : Option Nat :=
  let (negative, unsigned) := splitSign (bytes.dropWhile isSpace)
  let numeral := unsigned.takeWhile fun byte => Decimal.IsDigit byte
  if numeral = [] then none
  else if 2 ^ 64 ≤ Decimal.value numeral then none
  else some (if negative then (2 ^ 64 - Decimal.value numeral) % 2 ^ 64 else Decimal.value numeral)

/-- `Endpoint::IsValid`. -/
def isValid (endpoint : Endpoint) : Bool := endpoint.host ≠ [] ∧ endpoint.port ≠ 0

/-- `ParseEndpoint`. -/
def parseEndpoint (raw : Bytes) : Except RpcError Endpoint :=
  match raw.findIdx? (· == 58) with
  | none => .error (zkError "endpoint must be host:port")
  | some separator =>
      match stoul (raw.drop (separator + 1)) with
      | none => .error (zkError "endpoint port is invalid")
      | some port =>
          let endpoint : Endpoint := ⟨raw.take separator, UInt16.ofNat port⟩
          if isValid endpoint then .ok endpoint else .error (zkError "endpoint is incomplete")

/-- The instance under a child of a method path; a child that cannot be read is left out. -/
def readInstance (tree : Tree) (methodPath child : Bytes) : Option (Option ServiceInstance) :=
  (getData tree (methodPath ++ text "/" ++ child)).map fun
    | .error _ => none
    | .ok data =>
        match parseEndpoint data with
        | .error _ => none
        | .ok endpoint => some ⟨child, endpoint⟩

/-- The loop of `RefreshMethod` over the children. -/
def readInstances (tree : Tree) (methodPath : Bytes) : List Bytes → Option (List ServiceInstance)
  | [] => some []
  | child :: rest => do
      let first ← readInstance tree methodPath child
      let others ← readInstances tree methodPath rest
      some (first.toList ++ others)

/-- `cache_state_->method_instances`. -/
abbrev Cache := Bytes → Option (List ServiceInstance)

/-- `RefreshMethod`, with the cache behind it. -/
def refreshMethod (arrange : List Bytes → List Bytes) (tree : Tree) (cache : Cache)
    (serviceName methodName : Bytes) : Option (Except RpcError (List ServiceInstance) × Cache) :=
  let methodPath := buildMethodPath serviceName methodName
  match zooGetChildren tree methodPath with
  | .error _ => some (.error (zkError "zoo_wget_children failed"), cache)
  | .ok children =>
      (readInstances tree methodPath (arrange children)).map fun instances =>
        (.ok instances, Function.update cache methodPath (some instances))

/-- The service and the method that `OnMethodChanged` reads off a path. -/
def splitMethodPath (methodPath : Bytes) : Option (Bytes × Bytes) :=
  match SlashPath.lastIndex slash methodPath with
  | none | some 0 => none
  | some (index + 1) =>
      some ((methodPath.drop 1).take index, methodPath.drop (index + 1 + 1))

/-- `OnMethodChanged`. -/
def onMethodChanged (arrange : List Bytes → List Bytes) (tree : Tree) (cache : Cache)
    (methodPath : Bytes) : Option Cache :=
  match splitMethodPath methodPath with
  | none => some cache
  | some (serviceName, methodName) =>
      (refreshMethod arrange tree cache serviceName methodName).map (·.2)

/-! ## The text of an endpoint -/

theorem splitSign_of_isDigit {bytes : Bytes} (digits : ∀ byte ∈ bytes, Decimal.IsDigit byte) :
    splitSign bytes = (false, bytes) := by
  simp only [splitSign]
  split
  · exact absurd (digits 43 List.mem_cons_self) (by decide)
  · exact absurd (digits 45 List.mem_cons_self) (by decide)
  · rfl

theorem isSpace_of_isDigit {byte : UInt8} (digit : Decimal.IsDigit byte) :
    isSpace byte = false := by
  have lower := digit.1
  have ne : byte ≠ 32 := by
    rintro rfl
    exact absurd lower (by decide)
  simp only [isSpace, decide_eq_false_iff_not, not_or, not_and]
  exact ⟨ne, fun _ => by omega⟩

theorem stoul_digits {n : Nat} (small : n < 2 ^ 64) : stoul (Decimal.digits n) = some n := by
  have all : ∀ byte ∈ Decimal.digits n, Decimal.IsDigit byte :=
    fun _ member => Decimal.isDigit_of_mem_digits member
  have untrimmed : (Decimal.digits n).dropWhile isSpace = Decimal.digits n := by
    obtain ⟨first, rest, digits_eq⟩ := List.exists_cons_of_ne_nil (Decimal.digits_ne_nil n)
    rw [digits_eq] at all ⊢
    exact List.dropWhile_cons_of_neg (by simp [isSpace_of_isDigit (all first List.mem_cons_self)])
  have numeral : (Decimal.digits n).takeWhile (fun byte => Decimal.IsDigit byte) =
      Decimal.digits n := by
    rw [List.takeWhile_eq_self_iff]
    intro byte member
    simpa using all byte member
  simp only [stoul]
  rw [untrimmed, splitSign_of_isDigit all]
  simp only [numeral, Decimal.value_digits]
  rw [if_neg (Decimal.digits_ne_nil n), if_neg (Nat.not_le.mpr small)]
  rfl

theorem toString_eq (endpoint : Endpoint) :
    endpoint.toString = endpoint.host ++ 58 :: Decimal.digits endpoint.port.toNat := by
  simp [Endpoint.toString, text, Decimal.digits]

/-- The text of an endpoint is read back, unless the host has a colon or something is missing. -/
theorem parseEndpoint_toString {endpoint : Endpoint} (no_colon : 58 ∉ endpoint.host)
    (host_ne : endpoint.host ≠ []) (port_ne : endpoint.port ≠ 0) :
    parseEndpoint endpoint.toString = .ok endpoint := by
  have separator : endpoint.toString.findIdx? (· == 58) = some endpoint.host.length := by
    have no_host : endpoint.host.findIdx? (· == 58) = none := by
      rw [List.findIdx?_eq_none_iff]
      intro byte member
      have ne : byte ≠ 58 := by
        rintro rfl
        exact no_colon member
      simpa using ne
    rw [toString_eq, List.findIdx?_append, no_host, List.findIdx?_cons]
    simp
  have port : stoul (endpoint.toString.drop (endpoint.host.length + 1)) =
      some endpoint.port.toNat := by
    rw [toString_eq, List.drop_length_add_append]
    exact stoul_digits (by have := endpoint.port.toNat_lt; omega)
  have host : endpoint.toString.take endpoint.host.length = endpoint.host := by
    rw [toString_eq]
    simp
  simp [parseEndpoint, separator, port, host, isValid, host_ne, port_ne]

end ZkResolver

end Hxrpc
