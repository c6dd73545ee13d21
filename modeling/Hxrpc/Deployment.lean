import Hxrpc.SettingsFile

/-!
# Deployments

A deployment says where a server listens, how services are found, where each method is served, how
long a client waits and how the log is written.  Any file that says this, in any order and grouping,
gives the server, the client and the logger exactly these settings.
-/

namespace Hxrpc

open Config Settings

/-- What a configuration file is written for. -/
structure Deployment where
  /-- Where the server listens. -/
  server : Endpoint
  /-- How services are found. -/
  backend : DiscoveryBackend
  /-- Where ZooKeeper is. -/
  zookeeper : Endpoint
  /-- The endpoints of each method, by service key. -/
  services : AList fun _ : Bytes => List Endpoint
  /-- How long a client waits, in milliseconds. -/
  timeoutMs : Nat
  /-- How the log is written. -/
  logger : LoggerConfig
  server_listable : Listable server
  zookeeper_listable : Listable zookeeper
  services_listable : ∀ key endpoints, services.lookup key = some endpoints →
    endpoints ≠ [] ∧ ∀ endpoint ∈ endpoints, Listable endpoint
  timeout_pos : 1 ≤ timeoutMs
  timeout_le : timeoutMs ≤ 2147483647
  logger_valid : sinkWritesFile logger.sink = true ↔ logger.filePath ≠ []

namespace Deployment

/-! ## How a deployment is written -/

/-- The name of a backend. -/
def backendText : DiscoveryBackend → Bytes
  | .kStatic => text "static"
  | .kZookeeper => text "zookeeper"

/-- The name of a mode. -/
def modeText : LoggerMode → Bytes
  | .kSync => text "sync"
  | .kAsync => text "async"

/-- The name of a sink. -/
def sinkText : LoggerSink → Bytes
  | .kStderr => text "stderr"
  | .kFile => text "file"
  | .kStderrAndFile => text "stderr_and_file"

/-- The name of a level. -/
def levelText : LogLevel → Bytes
  | .kInfo => text "info"
  | .kWarn => text "warn"
  | .kError => text "error"

/-- Endpoints with commas between them. -/
def listText (endpoints : List Endpoint) : Bytes :=
  List.intercalate [comma] (endpoints.map Endpoint.toString)

/-- The settings with fixed paths. -/
def fixed (deployment : Deployment) : List (Bytes × Bytes) :=
  [(text "server.host", deployment.server.host),
    (text "server.port", Decimal.digits deployment.server.port.toNat),
    (text "discovery.backend", backendText deployment.backend),
    (text "discovery.zookeeper.host", deployment.zookeeper.host),
    (text "discovery.zookeeper.port", Decimal.digits deployment.zookeeper.port.toNat),
    (text "client.rpc_timeout_ms", Decimal.digits deployment.timeoutMs),
    (text "logging.mode", modeText deployment.logger.mode),
    (text "logging.sink", sinkText deployment.logger.sink),
    (text "logging.min_level", levelText deployment.logger.minLevel)] ++
  if deployment.logger.filePath = [] then []
  else [(text "logging.file_path", deployment.logger.filePath)]

/-- Everything a file has to say. -/
def entries (deployment : Deployment) : List (Bytes × Bytes) :=
  deployment.fixed ++ deployment.services.entries.map fun service_ =>
    (servicesPrefix ++ service_.1, listText service_.2)

/-- The fixed paths that are read. -/
def fixedPaths : List Bytes :=
  [text "server.host", text "server.port", text "discovery.backend",
    text "discovery.zookeeper.host", text "discovery.zookeeper.port",
    text "client.rpc_timeout_ms", text "logging.mode", text "logging.sink",
    text "logging.min_level", text "logging.file_path"]

/-- A path that no settings are read from. -/
def Foreign (path : Bytes) : Prop :=
  path ∉ fixedPaths ∧ ¬ servicesPrefix <+: path

/-- A document says a deployment: no path comes twice, and besides the settings of the deployment
only foreign paths have values. -/
structure Describes (document : Document) (deployment : Deployment)
    (others : List (Bytes × Bytes)) : Prop where
  distinct : ((document.flatten []).map Prod.fst).Nodup
  shuffled : (document.flatten []).Perm (deployment.entries ++ others)
  foreign : ∀ other ∈ others, Foreign other.1

/-! ## The map of a deployment -/

/-- A configuration with the settings of a deployment. -/
structure Carried (config : HxrpcConfig) (deployment : Deployment) : Prop where
  fixed : ∀ entry ∈ deployment.fixed, config.load entry.1 = entry.2
  unset : deployment.logger.filePath = [] → config.load (text "logging.file_path") = []
  services : ∀ key, config.configMap.lookup (servicesPrefix ++ key) =
    (deployment.services.lookup key).map listText

theorem map_fst_fixed (deployment : Deployment) :
    deployment.fixed.map Prod.fst <+: fixedPaths := by
  rw [fixed]
  split_ifs
  · exact ⟨[text "logging.file_path"], rfl⟩
  · exact ⟨[], rfl⟩

theorem filePath_notMem {deployment : Deployment} (empty : deployment.logger.filePath = []) :
    text "logging.file_path" ∉ deployment.fixed.map Prod.fst := by
  have paths : deployment.fixed.map Prod.fst = fixedPaths.take 9 := by
    rw [fixed, if_pos empty]
    rfl
  rw [paths]
  decide +kernel

theorem fst_mem_fixedPaths {deployment : Deployment} {entry : Bytes × Bytes}
    (member : entry ∈ deployment.fixed) : entry.1 ∈ fixedPaths :=
  (map_fst_fixed deployment).subset (List.mem_map_of_mem member)

theorem not_servicesPrefix_of_mem_fixedPaths {path : Bytes} (member : path ∈ fixedPaths) :
    ¬ servicesPrefix <+: path := by
  have checked : ∀ path ∈ fixedPaths, servicesPrefix.isPrefixOf path = false := by decide +kernel
  intro starts
  rw [← List.isPrefixOf_iff_prefix, checked path member] at starts
  cases starts

namespace Describes

variable {document : Document} {deployment : Deployment} {others : List (Bytes × Bytes)}

/-- Of a described path there is one value. -/
theorem mem_iff (describes : Describes document deployment others) {path value : Bytes} :
    (∃ front behind, document.flatten [] = front ++ (path, value) :: behind ∧
        ∀ later ∈ behind, later.1 ≠ path) ↔
      (path, value) ∈ deployment.entries ∨ (path, value) ∈ others := by
  rw [← List.mem_append, ← describes.shuffled.mem_iff]
  constructor
  · rintro ⟨front, behind, whole, -⟩
    rw [whole]
    exact List.mem_append_right front List.mem_cons_self
  · intro member
    obtain ⟨front, behind, whole⟩ := List.append_of_mem member
    refine ⟨front, behind, whole, fun later later_member same => ?_⟩
    have distinct := describes.distinct
    rw [whole, List.map_append, List.map_cons, List.nodup_append] at distinct
    exact (List.nodup_cons.mp distinct.2.1).1
      (List.mem_map.mpr ⟨later, later_member, same⟩)

/-- The map of a described deployment. -/
theorem carried (describes : Describes document deployment others) {config : HxrpcConfig}
    (filled : ∀ path value, config.configMap.lookup path = some value ↔
      ∃ front behind, document.flatten [] = front ++ (path, value) :: behind ∧
        ∀ later ∈ behind, later.1 ≠ path) :
    Carried config deployment := by
  have lookup_iff : ∀ path value, config.configMap.lookup path = some value ↔
      (path, value) ∈ deployment.entries ∨ (path, value) ∈ others :=
    fun path value => (filled path value).trans describes.mem_iff
  refine ⟨?_, ?_, ?_⟩
  · intro entry member
    have found := (lookup_iff entry.1 entry.2).mpr (Or.inl (List.mem_append_left _ member))
    rw [HxrpcConfig.load, found, Option.getD_some]
  · intro empty
    cases found : config.configMap.lookup (text "logging.file_path") with
    | none => rw [HxrpcConfig.load, found, Option.getD_none]
    | some value =>
        have known : text "logging.file_path" ∈ fixedPaths := by simp [fixedPaths]
        rcases (lookup_iff _ value).mp found with own | other
        · rcases List.mem_append.mp own with own | listed
          · exact absurd (List.mem_map_of_mem own) (filePath_notMem empty)
          · obtain ⟨service_, -, same⟩ := List.mem_map.mp listed
            exact absurd ⟨service_.1, congrArg Prod.fst same⟩
              (not_servicesPrefix_of_mem_fixedPaths known)
        · exact absurd known (describes.foreign _ other).1
  · intro key
    apply Option.ext
    intro value
    rw [lookup_iff, Option.map_eq_some_iff]
    constructor
    · rintro (own | other)
      · rcases List.mem_append.mp own with own | listed
        · exact absurd (List.prefix_append _ _)
            (not_servicesPrefix_of_mem_fixedPaths (fst_mem_fixedPaths own))
        · obtain ⟨service_, member, same⟩ := List.mem_map.mp listed
          obtain ⟨key_eq, value_eq⟩ := Prod.mk.inj same
          rw [List.append_cancel_left_eq] at key_eq
          subst key_eq
          exact ⟨service_.2, AList.mem_lookup_iff.mpr member, value_eq⟩
      · exact absurd (List.prefix_append _ _) (describes.foreign _ other).2
    · rintro ⟨endpoints, found, rfl⟩
      left
      apply List.mem_append_right
      exact List.mem_map.mpr ⟨⟨key, endpoints⟩, AList.mem_lookup_iff.mp found, rfl⟩

end Describes

/-! ## Reading the settings -/

theorem parseEndpoint_hostPort {endpoint : Endpoint} (listable : Listable endpoint)
    (fieldName : Bytes) :
    parseEndpoint (endpoint.host ++ text ":" ++ Decimal.digits endpoint.port.toNat) fieldName =
      .ok endpoint := by
  have read := parseEndpoint_spaced {} listable fieldName
  rw [trimCopy_spaced {} listable, List.append_nil, List.nil_append] at read
  rw [List.append_assoc]
  exact read

/-- A list of endpoints is read back. -/
theorem serviceOf_listText {endpoints : List Endpoint} (nonempty : endpoints ≠ [])
    (listable : ∀ endpoint ∈ endpoints, Listable endpoint) (key : Bytes) :
    serviceOf key (listText endpoints) = some endpoints := by
  have texts : endpoints.map Endpoint.toString =
      (endpoints.map fun endpoint => (({} : Spacing), endpoint)).map
        fun item => spaced item.1 item.2 := by
    rw [List.map_map]
    exact List.map_congr_left fun endpoint _ => (spaced_nil endpoint).symm
  have free : ∀ item ∈ endpoints.map Endpoint.toString, comma ∉ item := by
    intro item member
    obtain ⟨endpoint, endpoint_member, rfl⟩ := List.mem_map.mp member
    rw [← spaced_nil]
    exact comma_notMem_spaced {} (listable endpoint endpoint_member)
  have parts_ne : endpoints.map Endpoint.toString ≠ [] := by simpa using nonempty
  have items_listable : ∀ item ∈ endpoints.map fun endpoint => (({} : Spacing), endpoint),
      Listable item.2 := by
    intro item member
    obtain ⟨endpoint, endpoint_member, rfl⟩ := List.mem_map.mp member
    exact listable endpoint endpoint_member
  rw [serviceOf, parseEndpointList, listText, split_eq,
    List.splitOn_intercalate comma free parts_ne, texts, parseItems_spaced _ items_listable,
    List.map_map]
  simp [Except.toOption, Function.comp_def]

theorem parseDiscoveryBackend_backendText (backend : DiscoveryBackend) :
    parseDiscoveryBackend (backendText backend) = backend := by
  cases backend <;> decide +kernel

theorem parseLoggerMode_modeText (mode : LoggerMode) :
    parseLoggerMode (modeText mode) = .ok mode := by
  cases mode <;> decide +kernel

theorem parseLoggerSink_sinkText (sink : LoggerSink) :
    parseLoggerSink (sinkText sink) = .ok sink := by
  cases sink <;> decide +kernel

theorem parseLogLevel_levelText (level : LogLevel) :
    parseLogLevel (levelText level) = .ok level := by
  cases level <;> decide +kernel

/-- Discovery settings of a deployment. -/
structure Discovers (discovery : DiscoveryConfig) (deployment : Deployment) : Prop where
  backend : discovery.backend = deployment.backend
  zookeeper : discovery.zookeeperEndpoint = deployment.zookeeper
  services : ∀ key, discovery.staticServices.lookup key = deployment.services.lookup key

namespace Carried

variable {config : HxrpcConfig} {deployment : Deployment}

theorem load_eq (carried : Carried config deployment) {path value : Bytes}
    (member : (path, value) ∈ deployment.fixed) : config.load path = value :=
  carried.fixed (path, value) member

theorem discovers (carried : Carried config deployment) :
    Discovers (loadDiscoveryConfig config) deployment where
  backend := by
    have named : config.load (text "discovery.backend") = backendText deployment.backend :=
      carried.load_eq (by simp [Deployment.fixed])
    simp only [loadDiscoveryConfig, named, parseDiscoveryBackend_backendText]
  zookeeper := by
    have host : config.load (text "discovery.zookeeper.host") = deployment.zookeeper.host :=
      carried.load_eq (by simp [Deployment.fixed])
    have port : config.load (text "discovery.zookeeper.port") =
        Decimal.digits deployment.zookeeper.port.toNat :=
      carried.load_eq (by simp [Deployment.fixed])
    simp only [loadDiscoveryConfig, host, port,
      parseEndpoint_hostPort deployment.zookeeper_listable]
  services key := by
    rw [lookup_staticServices, carried.services]
    cases found : deployment.services.lookup key with
    | none => rfl
    | some endpoints =>
        obtain ⟨nonempty, listable⟩ := deployment.services_listable key endpoints found
        exact serviceOf_listText nonempty listable key

theorem buildServerConfig_eq (carried : Carried config deployment) :
    buildServerConfig config =
      .ok ⟨deployment.server, { maxEvents := 128 }, loadDiscoveryConfig config, .kProtobuf⟩ := by
  have host : config.load (text "server.host") = deployment.server.host :=
    carried.load_eq (by simp [Deployment.fixed])
  have port : config.load (text "server.port") = Decimal.digits deployment.server.port.toNat :=
    carried.load_eq (by simp [Deployment.fixed])
  simp only [buildServerConfig, host, port, parseEndpoint_hostPort deployment.server_listable]

theorem buildClientConfig_eq (carried : Carried config deployment) :
    buildClientConfig config =
      .ok ⟨loadDiscoveryConfig config, .kProtobuf, { timeoutMs := deployment.timeoutMs }⟩ := by
  have timeout : config.load (text "client.rpc_timeout_ms") =
      Decimal.digits deployment.timeoutMs :=
    carried.load_eq (by simp [Deployment.fixed])
  have numeral : Numerals.IsNumeral (Decimal.digits deployment.timeoutMs) :=
    ⟨Decimal.digits_ne_nil _, fun byte member => Decimal.isDigit_of_mem_digits member⟩
  have lower := deployment.timeout_pos
  have upper := deployment.timeout_le
  have read : Numerals.stoi (Decimal.digits deployment.timeoutMs) =
      some (deployment.timeoutMs : Int) := by
    rw [stoi_spec numeral.reading (by omega), Decimal.value_digits]
    exact ⟨by simp, upper, rfl⟩
  simp only [buildClientConfig, timeout]
  rw [if_pos (Decimal.digits_ne_nil _), read]
  simp only
  rw [if_neg (by omega)]

theorem buildLoggerConfig_eq (carried : Carried config deployment) :
    buildLoggerConfig config = .ok deployment.logger := by
  have mode : config.load (text "logging.mode") = modeText deployment.logger.mode :=
    carried.load_eq (by simp [Deployment.fixed])
  have sink : config.load (text "logging.sink") = sinkText deployment.logger.sink :=
    carried.load_eq (by simp [Deployment.fixed])
  have level : config.load (text "logging.min_level") = levelText deployment.logger.minLevel :=
    carried.load_eq (by simp [Deployment.fixed])
  have file : config.load (text "logging.file_path") = deployment.logger.filePath := by
    rcases eq_or_ne deployment.logger.filePath [] with empty | nonempty
    · rw [carried.unset empty, empty]
    · exact carried.load_eq (by simp [Deployment.fixed, nonempty])
  have valid := deployment.logger_valid
  simp only [buildLoggerConfig, mode, sink, level, file, parseLoggerMode_modeText,
    parseLoggerSink_sinkText, parseLogLevel_levelText]
  rw [if_neg fun missing => valid.mp missing.1 missing.2,
    if_neg fun surplus => surplus.1 (valid.mpr surplus.2)]

end Carried

section Files

variable {depth : Nat} {document : Document} {lines : List Bytes} {deployment : Deployment}
  {others : List (Bytes × Bytes)} {files : Bytes → Option Bytes} {path : Bytes}

theorem loadRawConfig_of_describes (prints : Prints depth document lines) (whole : Whole lines)
    (describes : Describes document deployment others) (path_ne : path ≠ [])
    (found : files (path.takeWhile (· ≠ 0)) = some (fileOf lines)) (walk : Walk) :
    ∃ config, loadRawConfig files walk path = .ok config ∧ Carried config deployment := by
  have raw : loadRawConfig files walk path =
      .ok ⟨insertAll ∅ (document.flatten []), walk _, (walk _).2⟩ := by
    rw [loadRawConfig, if_neg path_ne, found, loadConfigFile_eq_insertAll prints whole]
  exact ⟨_, raw, describes.carried (lookup_foldl_insert (document.flatten []))⟩

/-- A method is resolved to one of its endpoints, and an unknown method is not resolved. -/
theorem resolve_of_discovers {discovery : DiscoveryConfig}
    (discovers : Discovers discovery deployment) (serviceName methodName : Bytes) (draw : Draw) :
    match deployment.services.lookup (StaticResolver.makeServiceKey serviceName methodName) with
    | some endpoints => ∃ endpoint ∈ endpoints,
        StaticResolver.resolve discovery serviceName methodName draw =
          .ok ⟨endpoint.toString, endpoint⟩
    | none => ∃ message, StaticResolver.resolve discovery serviceName methodName draw =
        .error ⟨.kDiscoveryError, message⟩ := by
  cases listed : deployment.services.lookup
      (StaticResolver.makeServiceKey serviceName methodName) with
  | none =>
      simp only [StaticResolver.resolve, discovers.services, listed]
      exact ⟨_, rfl⟩
  | some endpoints =>
      have nonempty := (deployment.services_listable _ endpoints listed).1
      obtain ⟨endpoint, member, chosen⟩ :=
        StaticResolver.chooseInstance_of_ne_nil discovery nonempty draw
      refine ⟨endpoint, member, ?_⟩
      simp only [StaticResolver.resolve, discovers.services, listed]
      exact chosen

/-- A file that prints a document with a deployment, in any order and grouping and beside any
foreign values, gives the server, the client and the logger the settings of the deployment, and the
client resolves exactly its methods, each to one of its endpoints. -/
theorem settings_of_deployment (prints : Prints depth document lines) (whole : Whole lines)
    (describes : Describes document deployment others) (path_ne : path ≠ [])
    (found : files (path.takeWhile (· ≠ 0)) = some (fileOf lines)) (walk : Walk) :
    ∃ server client,
      loadServerSettings files walk path = .ok server ∧
      loadClientSettings files walk path = .ok client ∧
      loadLoggerSettings files walk path = .ok ⟨deployment.logger⟩ ∧
      server.config.listenEndpoint = deployment.server ∧
      Discovers server.config.discovery deployment ∧
      Discovers client.config.discovery deployment ∧
      client.config.callOptions = { timeoutMs := deployment.timeoutMs } ∧
      ∀ serviceName methodName draw,
        match deployment.services.lookup
          (StaticResolver.makeServiceKey serviceName methodName) with
        | some endpoints => ∃ endpoint ∈ endpoints,
            StaticResolver.resolve client.config.discovery serviceName methodName draw =
              .ok ⟨endpoint.toString, endpoint⟩
        | none => ∃ message,
            StaticResolver.resolve client.config.discovery serviceName methodName draw =
              .error ⟨.kDiscoveryError, message⟩ := by
  obtain ⟨config, raw, carried⟩ :=
    loadRawConfig_of_describes prints whole describes path_ne found walk
  refine ⟨⟨deployment.server, { maxEvents := 128 }, loadDiscoveryConfig config, .kProtobuf⟩,
    ⟨loadDiscoveryConfig config, .kProtobuf, { timeoutMs := deployment.timeoutMs }⟩,
    ?_, ?_, ?_, rfl, carried.discovers, carried.discovers, rfl,
    resolve_of_discovers carried.discovers⟩
  · simp only [loadServerSettings, raw, carried.buildServerConfig_eq]
  · simp only [loadClientSettings, raw, carried.buildClientConfig_eq]
  · simp only [loadLoggerSettings, raw, carried.buildLoggerConfig_eq]

end Files

/-! ## A deployment in a file -/

instance (endpoint : Endpoint) : Decidable (Listable endpoint) :=
  decidable_of_iff
    (endpoint.host ≠ [] ∧ endpoint.port ≠ 0 ∧ colon ∉ endpoint.host ∧ comma ∉ endpoint.host ∧
      Trimmed endpoint.host)
    ⟨fun ⟨host_ne, port_ne, no_colon, no_comma, trimmed⟩ =>
        ⟨host_ne, port_ne, no_colon, no_comma, trimmed⟩,
      fun ⟨host_ne, port_ne, no_colon, no_comma, trimmed⟩ =>
        ⟨host_ne, port_ne, no_colon, no_comma, trimmed⟩⟩

/-- A server on one machine with one method on two. -/
def sampleDeployment : Deployment where
  server := ⟨text "127.0.0.1", 8000⟩
  backend := .kStatic
  zookeeper := ⟨text "localhost", 2181⟩
  services := AList.singleton (text "User.Login")
    [⟨text "127.0.0.1", 8000⟩, ⟨text "10.0.0.2", 8000⟩]
  timeoutMs := 500
  logger := ⟨.kAsync, .kStderrAndFile, text "logs/a.log", .kInfo⟩
  server_listable := by decide +kernel
  zookeeper_listable := by decide +kernel
  services_listable key endpoints found := by
    have member := AList.mem_lookup_iff.mp found
    rw [AList.singleton_entries, List.mem_singleton, Sigma.mk.injEq, heq_eq_eq] at member
    obtain ⟨-, rfl⟩ := member
    decide +kernel
  timeout_pos := by decide
  timeout_le := by decide
  logger_valid := by decide +kernel

/-- A document with its settings and one more value. -/
def deploymentDocument : Document :=
  .group (text "server")
    (.value (text "host") (text "127.0.0.1") (.value (text "port") (text "8000") .nil))
    (.group (text "discovery")
      (.value (text "backend") (text "static")
        (.group (text "services")
          (.value (text "User.Login") (text "127.0.0.1:8000,10.0.0.2:8000") .nil)
          (.group (text "zookeeper")
            (.value (text "port") (text "2181") (.value (text "host") (text "localhost") .nil))
            .nil)))
      (.value (text "client.rpc_timeout_ms") (text "500")
        (.value (text "app.name") (text "sample")
          (.group (text "logging")
            (.value (text "min_level") (text "info")
              (.value (text "mode") (text "async")
                (.value (text "sink") (text "stderr_and_file")
                  (.value (text "file_path") (text "logs/a.log") .nil)))) .nil))))

theorem describes_sampleDeployment :
    Describes deploymentDocument sampleDeployment [(text "app.name", text "sample")] where
  distinct := by decide +kernel
  shuffled := by decide +kernel
  foreign other member := by
    rw [List.mem_singleton.mp member, Foreign, ← List.isPrefixOf_iff_prefix]
    decide +kernel

/-- The file system with that document in one file. -/
def sampleFiles (name : Bytes) : Option Bytes :=
  if name = text "server.yaml" then some (fileOf (deploymentDocument.lines 0)) else none

/-- Maps are iterated as they are. -/
def inOrder : Walk :=
  fun map => ⟨map.entries, List.Perm.refl _⟩

theorem settings_of_sampleDeployment :
    ∃ client, loadClientSettings sampleFiles inOrder (text "server.yaml") = .ok client ∧
      ∃ endpoint ∈ [⟨text "127.0.0.1", 8000⟩, ⟨text "10.0.0.2", 8000⟩],
        StaticResolver.resolve client.config.discovery (text "User") (text "Login")
          (fun last => Fin.last last) = .ok ⟨endpoint.toString, endpoint⟩ := by
  have lines : ∀ line ∈ deploymentDocument.lines 0,
      newline ∉ line ∧ (0 : UInt8) ∉ line ∧ line.length ≤ bufferWidth := by decide +kernel
  have whole : Whole (deploymentDocument.lines 0) :=
    ⟨fun line member => (lines line member).1, fun line member => (lines line member).2.1,
      fun line member => uncut_of_length_le (lines line member).2.2⟩
  obtain ⟨server, client, -, loaded, -, -, -, -, -, resolves⟩ :=
    @settings_of_deployment 0 deploymentDocument _ sampleDeployment _ sampleFiles
      (text "server.yaml") (prints_lines (by decide +kernel) 0) whole describes_sampleDeployment
      (by decide +kernel) (by decide +kernel) inOrder
  refine ⟨client, loaded, ?_⟩
  have listed : sampleDeployment.services.lookup
      (StaticResolver.makeServiceKey (text "User") (text "Login")) =
        some [⟨text "127.0.0.1", 8000⟩, ⟨text "10.0.0.2", 8000⟩] := by decide +kernel
  have resolved := resolves (text "User") (text "Login") fun last => Fin.last last
  rw [listed] at resolved
  exact resolved

end Deployment

end Hxrpc
