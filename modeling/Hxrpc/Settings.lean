import Hxrpc.Config
import Hxrpc.Lib.Separators
import Hxrpc.Numerals

/-!
# Typed settings

`settings.cc` on the flat map of a loaded configuration: endpoints and lists of endpoints, the
discovery settings and the client settings.  An endpoint is a host and a port around the first
colon; both are trimmed.
-/

namespace Hxrpc

open Config
open ZkResolver (stoul isValid)

/-- `hxrpcconfig`: the map, and the order in which `Entries` walks it. -/
structure HxrpcConfig where
  /-- `config_map_`. -/
  configMap : AList fun _ : Bytes => Bytes
  /-- The entries in the order of an iteration. -/
  entries : List (Sigma fun _ : Bytes => Bytes)
  /-- An iteration walks every entry once. -/
  walks : entries.Perm configMap.entries

/-- `hxrpcconfig::Load`. -/
def HxrpcConfig.load (config : HxrpcConfig) (key : Bytes) : Bytes :=
  (config.configMap.lookup key).getD []

/-- Service discovery backend. -/
inductive DiscoveryBackend where
  | kStatic
  | kZookeeper
  deriving DecidableEq

/-- Policy for the choice among several instances. -/
inductive ResolverSelectionPolicy where
  | kRandom
  deriving DecidableEq

/-- Serialization backend. -/
inductive SerializationBackend where
  | kProtobuf
  deriving DecidableEq

/-- `DiscoveryConfig`. -/
structure DiscoveryConfig where
  /-- Discovery backend. -/
  backend : DiscoveryBackend := .kStatic
  /-- Address of ZooKeeper. -/
  zookeeperEndpoint : Endpoint := ⟨[], 0⟩
  /-- Choice among several instances. -/
  selectionPolicy : ResolverSelectionPolicy := .kRandom
  /-- Endpoints by service key. -/
  staticServices : AList fun _ : Bytes => List Endpoint := ∅

/-- `ClientConfig`. -/
structure ClientConfig where
  /-- Discovery settings. -/
  discovery : DiscoveryConfig
  /-- Serialization backend. -/
  serialization : SerializationBackend
  /-- Call options. -/
  callOptions : CallOptions

namespace Settings

/-- What separates the items of a list. -/
def comma : UInt8 := 44

/-- `ParseEndpoint`. -/
def parseEndpoint (raw fieldName : Bytes) : Except Bytes Endpoint :=
  match raw.idxOf? colon with
  | none => .error (fieldName ++ text " must be host:port")
  | some separator =>
      let host := trimCopy (raw.take separator)
      match stoul (trimCopy (raw.drop (separator + 1))) with
      | none => .error (fieldName ++ text " port is invalid")
      | some port =>
          let endpoint : Endpoint := ⟨host, UInt16.ofNat port⟩
          if isValid endpoint then .ok endpoint
          else .error (fieldName ++ text " is incomplete")

/-- The loop of `Split`, from a cursor on and for at most `steps` rounds. -/
def splitLoop (raw : Bytes) (delimiter : UInt8) : Nat → Nat → List Bytes
  | 0, _ => []
  | steps + 1, cursor =>
      if raw.length < cursor then []
      else
        match (raw.drop cursor).idxOf? delimiter with
        | none => [raw.drop cursor]
        | some size =>
            (raw.drop cursor).take size :: splitLoop raw delimiter steps (cursor + size + 1)

/-- `Split`; every round moves the cursor, so there are enough of them. -/
def split (raw : Bytes) (delimiter : UInt8) : List Bytes :=
  splitLoop raw delimiter (raw.length + 1) 0

/-- The loop of `ParseEndpointList`. -/
def parseItems (fieldName : Bytes) : List Bytes → Except Bytes (List Endpoint)
  | [] => .ok []
  | item :: items =>
      match parseEndpoint (trimCopy item) fieldName with
      | .error error => .error error
      | .ok endpoint =>
          match parseItems fieldName items with
          | .error error => .error error
          | .ok endpoints => .ok (endpoint :: endpoints)

/-- `ParseEndpointList`. -/
def parseEndpointList (raw fieldName : Bytes) : Except Bytes (List Endpoint) :=
  parseItems fieldName (split raw comma)

/-- `ParseDiscoveryBackend`. -/
def parseDiscoveryBackend (raw : Bytes) : DiscoveryBackend :=
  if raw = text "zookeeper" ∨ raw = text "zk" then .kZookeeper else .kStatic

/-- What the keys of static services start with. -/
def servicesPrefix : Bytes := text "discovery.services."

/-- `emplace`, which leaves an existing entry alone. -/
def emplace (map : AList fun _ : Bytes => List Endpoint) (key : Bytes) (value : List Endpoint) :
    AList fun _ : Bytes => List Endpoint :=
  if key ∈ map then map else map.insert key value

/-- One round of the loop of `LoadDiscoveryConfig`. -/
def addService (services : AList fun _ : Bytes => List Endpoint)
    (entry : Sigma fun _ : Bytes => Bytes) : AList fun _ : Bytes => List Endpoint :=
  if servicesPrefix.isPrefixOf entry.1 then
    match parseEndpointList entry.2 entry.1 with
    | .error _ => services
    | .ok endpoints => emplace services (entry.1.drop servicesPrefix.length) endpoints
  else services

/-- `LoadDiscoveryConfig`. -/
def loadDiscoveryConfig (config : HxrpcConfig) : DiscoveryConfig :=
  { backend := parseDiscoveryBackend (config.load (text "discovery.backend"))
    zookeeperEndpoint :=
      match parseEndpoint (config.load (text "discovery.zookeeper.host") ++ text ":" ++
          config.load (text "discovery.zookeeper.port")) (text "zookeeper") with
      | .ok endpoint => endpoint
      | .error _ => ⟨[], 0⟩
    staticServices := config.entries.foldl addService ∅ }

/-- `BuildClientConfig`. -/
def buildClientConfig (config : HxrpcConfig) : Except Bytes ClientConfig :=
  let clientConfig : ClientConfig :=
    { discovery := loadDiscoveryConfig config, serialization := .kProtobuf, callOptions := {} }
  let timeoutValue := config.load (text "client.rpc_timeout_ms")
  if timeoutValue ≠ [] then
    match Numerals.stoi timeoutValue with
    | none => .error (text "rpc_timeout_ms is invalid")
    | some timeout =>
        if timeout ≤ 0 then .error (text "rpc_timeout_ms must be positive")
        else
          .ok { clientConfig with
            callOptions := { clientConfig.callOptions with timeoutMs := timeout } }
  else .ok clientConfig

/-! ## Cutting -/

/-- The text is cut at its first colon. -/
structure Cut (raw front back : Bytes) : Prop where
  whole : raw = front ++ colon :: back
  first : colon ∉ front

/-- A text without a colon has no cut, any other text has one. -/
theorem cut_or_notMem (raw : Bytes) : (∃ front back, Cut raw front back) ∨ colon ∉ raw := by
  by_cases present : colon ∈ raw
  · obtain ⟨front, back, whole, first⟩ := List.eq_append_cons_of_mem present
    exact Or.inl ⟨front, back, whole, first⟩
  · exact Or.inr present

namespace Cut

variable {raw front back : Bytes}

theorem idxOf? (cut : Cut raw front back) : raw.idxOf? colon = some front.length := by
  rw [cut.whole]
  exact idxOf?_append_cons cut.first back

theorem take (cut : Cut raw front back) : raw.take front.length = front := by
  rw [cut.whole, List.take_left]

theorem drop (cut : Cut raw front back) : raw.drop (front.length + 1) = back := by
  rw [cut.whole, List.drop_length_add_append]
  rfl

theorem unique (cut : Cut raw front back) {other_front other_back : Bytes}
    (other : Cut raw other_front other_back) : other_front = front ∧ other_back = back := by
  have same : front.length = other_front.length :=
    Option.some.inj (cut.idxOf?.symm.trans other.idxOf?)
  constructor
  · rw [← other.take, ← same, cut.take]
  · rw [← other.drop, ← same, cut.drop]

end Cut

/-- What `ParseEndpoint` does with the two sides of the first colon. -/
theorem parseEndpoint_of_cut {raw front back : Bytes} (cut : Cut raw front back)
    (fieldName : Bytes) :
    parseEndpoint raw fieldName =
      match stoul (trimCopy back) with
      | none => .error (fieldName ++ text " port is invalid")
      | some port =>
          if isValid ⟨trimCopy front, UInt16.ofNat port⟩ then
            .ok ⟨trimCopy front, UInt16.ofNat port⟩
          else .error (fieldName ++ text " is incomplete") := by
  cases number : stoul (trimCopy back) with
  | none => simp only [parseEndpoint, cut.idxOf?, cut.drop, number]
  | some port => simp only [parseEndpoint, cut.idxOf?, cut.take, cut.drop, number]

theorem parseEndpoint_of_notMem {raw : Bytes} (absent : colon ∉ raw) (fieldName : Bytes) :
    parseEndpoint raw fieldName = .error (fieldName ++ text " must be host:port") := by
  have none_found : raw.idxOf? colon = none := List.idxOf?_eq_none_iff.mpr absent
  simp only [parseEndpoint, none_found]

/-- When `ParseEndpoint` returns an endpoint, and which. -/
theorem parseEndpoint_eq_ok_iff {raw fieldName : Bytes} {endpoint : Endpoint} :
    parseEndpoint raw fieldName = .ok endpoint ↔
      ∃ front back port, Cut raw front back ∧ stoul (trimCopy back) = some port ∧
        endpoint = ⟨trimCopy front, UInt16.ofNat port⟩ ∧ isValid endpoint = true := by
  constructor
  · intro parsed
    rcases cut_or_notMem raw with ⟨front, back, cut⟩ | absent
    · rw [parseEndpoint_of_cut cut] at parsed
      cases number : stoul (trimCopy back) with
      | none =>
          rw [number] at parsed
          cases parsed
      | some port =>
          rw [number] at parsed
          simp only at parsed
          split_ifs at parsed with valid
          obtain rfl := Except.ok.inj parsed
          exact ⟨front, back, port, cut, number, rfl, valid⟩
    · rw [parseEndpoint_of_notMem absent] at parsed
      cases parsed
  · rintro ⟨front, back, port, cut, number, rfl, valid⟩
    rw [parseEndpoint_of_cut cut, number]
    exact if_pos valid

end Settings

end Hxrpc
