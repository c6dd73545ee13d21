import Hxrpc.Settings

/-!
# Which numbers the settings accept

A port is meant to be a numeral from 1 to 65535, and the timeout one from 1 to 2147483647.  Neither
conversion looks at what stands around the digits, and the cast of a port keeps 16 bits only.  What
goes wrong is described on the text: a port or timeout is misread when a number can be taken off its
front although it is no numeral in range.
-/

namespace Hxrpc

namespace Settings

open Config Numerals
open ZkResolver (stoul isValid)

instance (bytes : Bytes) : Decidable (IsNumeral bytes) :=
  inferInstanceAs (Decidable (_ ∧ _))

/-- What the text of a host and the text of a port stand for. -/
def Denotes (host port : Bytes) (endpoint : Endpoint) : Prop :=
  host ≠ [] ∧ IsNumeral port ∧ 1 ≤ Decimal.value port ∧ Decimal.value port ≤ 65535 ∧
    endpoint.host = host ∧ endpoint.port.toNat = Decimal.value port

instance (host port : Bytes) (endpoint : Endpoint) : Decidable (Denotes host port endpoint) :=
  inferInstanceAs (Decidable (_ ∧ _))

/-- The result is the endpoint that the sides of the first colon stand for, if they do. -/
def AcceptsNumerals {Error : Type} (trim : Bytes → Bytes) (result : Except Error Endpoint)
    (raw : Bytes) : Prop :=
  ∀ endpoint, result = .ok endpoint ↔
    ∃ front back, Cut raw front back ∧ Denotes (trim front) (trim back) endpoint

/-- The text starts with a number that is no multiple of `2 ^ 16`, but something stands around the
digits or the number is too large for a port. -/
def MisreadPort (port : Bytes) : Prop :=
  ∃ spaces sign numeral rest, Reading port spaces sign numeral rest ∧
    (Surrounded spaces sign rest ∨ 65535 < Decimal.value numeral) ∧
    Decimal.value numeral < 2 ^ 64 ∧ Decimal.value numeral % 2 ^ 16 ≠ 0

/-- The result has the default timeout if the text is empty, and otherwise the timeout that the text
stands for, if it does. -/
def AcceptsTimeout (config : HxrpcConfig) : Prop :=
  ∀ timeout : Int,
    (∃ client, buildClientConfig config = .ok client ∧ client.callOptions.timeoutMs = timeout) ↔
      config.load (text "client.rpc_timeout_ms") = [] ∧ timeout = 3000 ∨
        IsNumeral (config.load (text "client.rpc_timeout_ms")) ∧
          1 ≤ Decimal.value (config.load (text "client.rpc_timeout_ms")) ∧
          Decimal.value (config.load (text "client.rpc_timeout_ms")) ≤ 2147483647 ∧
          timeout = Decimal.value (config.load (text "client.rpc_timeout_ms"))

/-- The text starts with a positive `int`, but something stands around the digits. -/
def MisreadTimeout (timeout : Bytes) : Prop :=
  ∃ spaces sign numeral rest, Reading timeout spaces sign numeral rest ∧
    Surrounded spaces sign rest ∧ sign ≠ [45] ∧
    1 ≤ Decimal.value numeral ∧ Decimal.value numeral ≤ 2147483647

/-! ## Ports -/

/-- Both parsers: the endpoint is made of the trimmed sides of the first colon. -/
def CutsAtColon {Error : Type} (trim : Bytes → Bytes) (result : Except Error Endpoint)
    (raw : Bytes) : Prop :=
  ∀ endpoint, result = .ok endpoint ↔
    ∃ front back port, Cut raw front back ∧ stoul (trim back) = some port ∧
      endpoint = ⟨trim front, UInt16.ofNat port⟩ ∧ isValid endpoint = true

theorem isValid_iff {host : Bytes} {port : Nat} :
    isValid ⟨host, UInt16.ofNat port⟩ = true ↔ host ≠ [] ∧ port % 2 ^ 16 ≠ 0 := by
  have zero_iff : UInt16.ofNat port = 0 ↔ port % 2 ^ 16 = 0 := by
    rw [← UInt16.toNat_inj, UInt16.toNat_ofNat', UInt16.toNat_zero]
  simp only [isValid, ne_eq, zero_iff, decide_eq_true_eq]

/-- Negation modulo `2 ^ 64` keeps the multiples of `2 ^ 16`. -/
theorem negated_mod {number : Nat} (small : number < 2 ^ 64) :
    (2 ^ 64 - number) % 2 ^ 64 % 2 ^ 16 = 0 ↔ number % 2 ^ 16 = 0 := by
  omega

/-- A number that is read keeps a port unless it is a multiple of `2 ^ 16`. -/
theorem stoul_spec {bytes spaces sign numeral rest : Bytes}
    (reading : Reading bytes spaces sign numeral rest) :
    (∀ port, stoul bytes = some port → Decimal.value numeral < 2 ^ 64 ∧
        (port % 2 ^ 16 = 0 ↔ Decimal.value numeral % 2 ^ 16 = 0) ∧
        (sign = [] → port = Decimal.value numeral)) ∧
      (Decimal.value numeral < 2 ^ 64 → ∃ port, stoul bytes = some port) := by
  rw [reading.stoul_eq]
  constructor
  · intro port read
    split_ifs at read with large negative
    · obtain rfl := Option.some.inj read
      refine ⟨Nat.not_le.mp large, negated_mod (Nat.not_le.mp large), ?_⟩
      rintro rfl
      cases negative
    · obtain rfl := Option.some.inj read
      exact ⟨Nat.not_le.mp large, Iff.rfl, fun _ => rfl⟩
  · intro small
    exact ⟨_, if_neg (Nat.not_le.mpr small)⟩

/-- What is read from a text that is not misread is what it stands for. -/
theorem denotes_of_read {host back : Bytes} {port : Nat} (read : stoul back = some port)
    (valid : isValid ⟨host, UInt16.ofNat port⟩ = true) (harmless : ¬ MisreadPort back) :
    Denotes host back ⟨host, UInt16.ofNat port⟩ := by
  obtain ⟨host_ne, port_ne⟩ := isValid_iff.mp valid
  rcases reading_or_none back with ⟨spaces, sign, numeral, rest, reading⟩ | ⟨failed, -⟩
  · obtain ⟨small, kept, unsigned⟩ := (stoul_spec reading).1 port read
    have value_ne : Decimal.value numeral % 2 ^ 16 ≠ 0 := fun zero => port_ne (kept.mpr zero)
    have inside : ¬ (Surrounded spaces sign rest ∨ 65535 < Decimal.value numeral) :=
      fun outside => harmless ⟨spaces, sign, numeral, rest, reading, outside, small, value_ne⟩
    obtain ⟨bare, in_range⟩ := not_or.mp inside
    have sign_nil : sign = [] := by
      by_contra signed
      exact bare (Or.inr (Or.inl signed))
    obtain rfl := unsigned sign_nil
    have whole := reading.numeral
    rw [reading.eq_of_not_surrounded bare] at whole in_range value_ne ⊢
    refine ⟨host_ne, whole, ?_, Nat.not_lt.mp in_range, rfl, ?_⟩
    · omega
    · rw [UInt16.toNat_ofNat']
      omega
  · rw [failed] at read
    cases read

/-- An endpoint that the sides of the colon stand for is read. -/
theorem read_of_denotes {host back : Bytes} {endpoint : Endpoint}
    (denotes : Denotes host back endpoint) :
    ∃ port, stoul back = some port ∧ endpoint = ⟨host, UInt16.ofNat port⟩ ∧
      isValid endpoint = true := by
  obtain ⟨host_ne, whole, lower, upper, host_eq, port_eq⟩ := denotes
  obtain ⟨port, read⟩ := (stoul_spec whole.reading).2 (by omega)
  obtain ⟨-, -, unsigned⟩ := (stoul_spec whole.reading).1 port read
  obtain rfl := unsigned rfl
  have endpoint_eq : endpoint = ⟨host, UInt16.ofNat (Decimal.value back)⟩ := by
    obtain ⟨own_host, own_port⟩ := endpoint
    simp only at host_eq port_eq
    rw [← host_eq, ← port_eq, UInt16.ofNat_toNat]
  refine ⟨_, read, endpoint_eq, ?_⟩
  rw [endpoint_eq]
  exact isValid_iff.mpr ⟨host_ne, by omega⟩

theorem acceptsNumerals_iff {Error : Type} {trim : Bytes → Bytes} {result : Except Error Endpoint}
    {raw : Bytes} (cuts : CutsAtColon trim result raw) :
    AcceptsNumerals trim result raw ↔
      ∀ front back, Cut raw front back → trim front ≠ [] → ¬ MisreadPort (trim back) := by
  constructor
  · rintro accepts front back cut host_ne
      ⟨spaces, sign, numeral, rest, reading, outside, small, port_ne⟩
    obtain ⟨port, read⟩ := (stoul_spec reading).2 small
    have kept := ((stoul_spec reading).1 port read).2.1
    have parsed : result = .ok ⟨trim front, UInt16.ofNat port⟩ :=
      (cuts _).mpr ⟨front, back, port, cut, read, rfl,
        isValid_iff.mpr ⟨host_ne, fun zero => port_ne (kept.mp zero)⟩⟩
    obtain ⟨front', back', cut', -, whole, -, upper, -⟩ := (accepts _).mp parsed
    obtain ⟨rfl, rfl⟩ := cut.unique cut'
    rcases em (Surrounded spaces sign rest) with surrounded | bare
    · exact reading.not_isNumeral surrounded whole
    · rw [← reading.eq_of_not_surrounded bare] at upper
      exact (Nat.not_lt.mpr upper) (outside.resolve_left bare)
  · intro harmless endpoint
    constructor
    · intro parsed
      obtain ⟨front, back, port, cut, read, rfl, valid⟩ := (cuts endpoint).mp parsed
      have host_ne := (isValid_iff.mp valid).1
      exact ⟨front, back, cut, denotes_of_read read valid (harmless front back cut host_ne)⟩
    · rintro ⟨front, back, cut, denotes⟩
      obtain ⟨port, read, endpoint_eq, valid⟩ := read_of_denotes denotes
      exact (cuts endpoint).mpr ⟨front, back, port, cut, read, endpoint_eq, valid⟩

theorem cutsAtColon_parseEndpoint (raw fieldName : Bytes) :
    CutsAtColon trimCopy (parseEndpoint raw fieldName) raw :=
  fun _ => parseEndpoint_eq_ok_iff

/-- The parser of ZooKeeper's endpoints does not trim. -/
theorem cutsAtColon_zkResolver (raw : Bytes) :
    CutsAtColon id (ZkResolver.parseEndpoint raw) raw := by
  intro endpoint
  have position : raw.findIdx? (· == 58) = raw.idxOf? colon := rfl
  constructor
  · intro parsed
    rcases cut_or_notMem raw with ⟨front, back, cut⟩ | absent
    · simp only [ZkResolver.parseEndpoint, position, cut.idxOf?, cut.take, cut.drop] at parsed
      cases number : stoul back with
      | none =>
          rw [number] at parsed
          cases parsed
      | some port =>
          rw [number] at parsed
          simp only at parsed
          split_ifs at parsed with valid
          obtain rfl := Except.ok.inj parsed
          exact ⟨front, back, port, cut, number, rfl, valid⟩
    · have none_found : raw.idxOf? colon = none := List.idxOf?_eq_none_iff.mpr absent
      simp only [ZkResolver.parseEndpoint, position, none_found] at parsed
      cases parsed
  · rintro ⟨front, back, port, cut, number, rfl, valid⟩
    simp only [id_eq] at number valid
    simp only [ZkResolver.parseEndpoint, position, cut.idxOf?, cut.take, cut.drop, number, valid,
      if_true, id_eq]

/-! ## Timeouts -/

theorem stoi_spec {bytes spaces sign numeral rest : Bytes}
    (reading : Reading bytes spaces sign numeral rest) {timeout : Int} (positive : 0 < timeout) :
    stoi bytes = some timeout ↔
      sign ≠ [45] ∧ Decimal.value numeral ≤ 2147483647 ∧ timeout = Decimal.value numeral := by
  rw [reading.stoi_eq]
  by_cases negative : sign = [45]
  · simp only [negative, if_true]
    constructor
    · intro read
      split_ifs at read
      have timeout_eq := Option.some.inj read
      omega
    · rintro ⟨unsigned, -⟩
      exact absurd rfl unsigned
  · simp only [negative, if_false]
    constructor
    · intro read
      split_ifs at read with outside
      have timeout_eq := Option.some.inj read
      exact ⟨negative, by omega, timeout_eq.symm⟩
    · rintro ⟨-, upper, rfl⟩
      rw [if_neg (by omega)]

/-- When `BuildClientConfig` succeeds, and with which timeout. -/
theorem buildClientConfig_timeout {config : HxrpcConfig} {timeout : Int} :
    (∃ client, buildClientConfig config = .ok client ∧ client.callOptions.timeoutMs = timeout) ↔
      config.load (text "client.rpc_timeout_ms") = [] ∧ timeout = 3000 ∨
        config.load (text "client.rpc_timeout_ms") ≠ [] ∧ 0 < timeout ∧
          stoi (config.load (text "client.rpc_timeout_ms")) = some timeout := by
  rw [buildClientConfig]
  generalize config.load (text "client.rpc_timeout_ms") = timeoutValue
  by_cases empty : timeoutValue = []
  · simp [empty, eq_comm]
  · simp only [empty, ne_eq, not_false_eq_true, if_true, false_and, false_or, true_and]
    cases number : stoi timeoutValue with
    | none => simp
    | some read =>
        by_cases positive : read ≤ 0
        · simp only [positive, if_true, reduceCtorEq, false_and, exists_false, Option.some.injEq,
            false_iff, not_and]
          omega
        · simp only [positive, if_false, Except.ok.injEq, exists_eq_left', Option.some.injEq,
            iff_and_self]
          omega

theorem acceptsTimeout_iff (config : HxrpcConfig) :
    AcceptsTimeout config ↔
      ¬ MisreadTimeout (config.load (text "client.rpc_timeout_ms")) := by
  simp only [AcceptsTimeout, buildClientConfig_timeout]
  generalize config.load (text "client.rpc_timeout_ms") = timeoutValue
  constructor
  · rintro accepts ⟨spaces, sign, numeral, rest, reading, surrounded, unsigned, lower, upper⟩
    have nonempty : timeoutValue ≠ [] := by
      rintro rfl
      obtain ⟨digit, behind, numeral_eq, -⟩ := reading.head_numeral
      have whole := reading.whole
      rw [numeral_eq] at whole
      simp at whole
    have read := (stoi_spec reading (by omega)).mpr ⟨unsigned, upper, rfl⟩
    rcases (accepts _).mp (Or.inr ⟨nonempty, by omega, read⟩) with ⟨empty, -⟩ | ⟨whole, -⟩
    · exact nonempty empty
    · exact reading.not_isNumeral surrounded whole
  · intro harmless timeout
    apply or_congr_right
    constructor
    · rintro ⟨-, positive, read⟩
      rcases reading_or_none timeoutValue with ⟨spaces, sign, numeral, rest, reading⟩ | ⟨-, failed⟩
      · obtain ⟨unsigned, upper, rfl⟩ := (stoi_spec reading positive).mp read
        have bare : ¬ Surrounded spaces sign rest := fun surrounded =>
          harmless ⟨spaces, sign, numeral, rest, reading, surrounded, unsigned, by omega, upper⟩
        have whole := reading.numeral
        rw [reading.eq_of_not_surrounded bare] at whole upper positive ⊢
        exact ⟨whole, by omega, upper, rfl⟩
      · rw [failed] at read
        cases read
    · rintro ⟨whole, lower, upper, rfl⟩
      exact ⟨whole.1, by omega, (stoi_spec whole.reading (by omega)).mpr ⟨by simp, upper, rfl⟩⟩

/-- The two parsers accept a text as an endpoint exactly if it is one, unless the host is there and
the port is misread; the timeout is accepted exactly if it is one, unless it is misread. -/
theorem numbers_accepted_iff (raw fieldName : Bytes) (config : HxrpcConfig) :
    (AcceptsNumerals trimCopy (parseEndpoint raw fieldName) raw ↔
      ∀ front back, Cut raw front back → trimCopy front ≠ [] →
        ¬ MisreadPort (trimCopy back)) ∧
    (AcceptsNumerals id (ZkResolver.parseEndpoint raw) raw ↔
      ∀ front back, Cut raw front back → front ≠ [] → ¬ MisreadPort back) ∧
    (AcceptsTimeout config ↔
      ¬ MisreadTimeout (config.load (text "client.rpc_timeout_ms"))) :=
  ⟨acceptsNumerals_iff (cutsAtColon_parseEndpoint raw fieldName),
    acceptsNumerals_iff (cutsAtColon_zkResolver raw), acceptsTimeout_iff config⟩

theorem not_acceptsNumerals {Error : Type} {trim : Bytes → Bytes} {result : Except Error Endpoint}
    {raw : Bytes} (front back : Bytes) (endpoint : Endpoint) (cut : Cut raw front back)
    (parsed : result = .ok endpoint) (wrong : ¬ Denotes (trim front) (trim back) endpoint) :
    ¬ AcceptsNumerals trim result raw := by
  intro accepts
  obtain ⟨front', back', cut', denotes⟩ := (accepts endpoint).mp parsed
  obtain ⟨rfl, rfl⟩ := cut.unique cut'
  exact wrong denotes

/-- A configuration whose only entry is a timeout with a unit. -/
def unitConfig : HxrpcConfig where
  configMap := AList.singleton (text "client.rpc_timeout_ms") (text "5s")
  entries := [⟨text "client.rpc_timeout_ms", text "5s"⟩]
  walks := List.Perm.refl _

/-- Port 70000 becomes 4464, a letter behind the port is ignored, and so is the unit. -/
theorem numbers_misread :
    ¬ AcceptsNumerals trimCopy (parseEndpoint (text "127.0.0.1:70000") (text "rpcserver"))
        (text "127.0.0.1:70000") ∧
      ¬ AcceptsNumerals id (ZkResolver.parseEndpoint (text "127.0.0.1:80x"))
        (text "127.0.0.1:80x") ∧
      ¬ AcceptsTimeout unitConfig := by
  refine ⟨?_, ?_, ?_⟩
  · exact not_acceptsNumerals (text "127.0.0.1") (text "70000") ⟨text "127.0.0.1", 4464⟩
      ⟨by decide +kernel, by decide +kernel⟩ (by decide +kernel) (by decide +kernel)
  · exact not_acceptsNumerals (text "127.0.0.1") (text "80x") ⟨text "127.0.0.1", 80⟩
      ⟨by decide +kernel, by decide +kernel⟩ (by decide +kernel) (by decide +kernel)
  · intro accepts
    have loaded : unitConfig.load (text "client.rpc_timeout_ms") = text "5s" := by decide +kernel
    have accepted := @buildClientConfig_timeout unitConfig 5
    rw [accepts 5, loaded] at accepted
    exact absurd (accepted.mpr (Or.inr (by decide +kernel))) (by decide +kernel)

end Settings

end Hxrpc
