import Hxrpc.Discovery.Static
import Hxrpc.Document
import Hxrpc.Logger
import Hxrpc.NumericSettings

/-!
# Settings from a file

The rest of `settings.cc`: a file is loaded and the settings of a server, of a client and of the
logger are built from its map.  `files` is what `fopen` finds under a name, and `walk` the order in
which a map is iterated.
-/

namespace Hxrpc

open Config

/-- How the log is written. -/
inductive LoggerMode where
  | kSync
  | kAsync
  deriving DecidableEq

/-- Where the log goes. -/
inductive LoggerSink where
  | kStderr
  | kFile
  | kStderrAndFile
  deriving DecidableEq

/-- `LoggerConfig`. -/
structure LoggerConfig where
  /-- How entries are written. -/
  mode : LoggerMode := .kAsync
  /-- Where they go. -/
  sink : LoggerSink := .kStderr
  /-- Path of the log file. -/
  filePath : Bytes := []
  /-- Entries below this level are dropped. -/
  minLevel : LogLevel := .kInfo
  deriving DecidableEq

/-- `LoggerConfig::ToOptions`. -/
def LoggerConfig.toOptions (config : LoggerConfig) : LoggerOptions where
  asyncEnabled := config.mode = .kAsync
  stderrEnabled := config.sink = .kStderr ∨ config.sink = .kStderrAndFile
  filePath := config.filePath
  minLevel := config.minLevel

/-- `ReactorConfig`. -/
structure ReactorConfig where
  /-- Most events of one wait. -/
  maxEvents : Int := 128
  deriving DecidableEq

/-- `ServerConfig`. -/
structure ServerConfig where
  /-- Where the server listens. -/
  listenEndpoint : Endpoint
  /-- Settings of the reactor. -/
  reactor : ReactorConfig
  /-- Discovery settings. -/
  discovery : DiscoveryConfig
  /-- Serialization backend. -/
  serialization : SerializationBackend

/-- `ServerSettings`. -/
structure ServerSettings where
  config : ServerConfig

/-- `ClientSettings`. -/
structure ClientSettings where
  config : ClientConfig

/-- `LoggerSettings`. -/
structure LoggerSettings where
  config : LoggerConfig
  deriving DecidableEq

namespace Settings

/-- An order for every map. -/
abbrev Walk :=
  (map : AList fun _ : Bytes => Bytes) →
    { entries : List (Sigma fun _ : Bytes => Bytes) // entries.Perm map.entries }

/-- `LoadRawConfig`; the name that is opened ends at the first null byte of the path. -/
def loadRawConfig (files : Bytes → Option Bytes) (walk : Walk) (path : Bytes) :
    Except Bytes HxrpcConfig :=
  if path = [] then .error (text "config path is empty")
  else
    match loadConfigFile ∅ (files (path.takeWhile (· ≠ 0))) with
    | (.error error, _) => .error error
    | (.ok (), map) => .ok ⟨map, walk map, (walk map).2⟩

/-- `ParseLoggerMode`. -/
def parseLoggerMode (raw : Bytes) : Except Bytes LoggerMode :=
  if raw = text "sync" then .ok .kSync
  else if raw = text "async" then .ok .kAsync
  else .error (text "logging.mode must be 'sync' or 'async'")

/-- `ParseLoggerSink`. -/
def parseLoggerSink (raw : Bytes) : Except Bytes LoggerSink :=
  if raw = text "stderr" then .ok .kStderr
  else if raw = text "file" then .ok .kFile
  else if raw = text "stderr_and_file" then .ok .kStderrAndFile
  else .error (text "logging.sink must be 'stderr', 'file', or 'stderr_and_file'")

/-- `ParseLogLevel`. -/
def parseLogLevel (raw : Bytes) : Except Bytes LogLevel :=
  if raw = text "info" then .ok .kInfo
  else if raw = text "warn" then .ok .kWarn
  else if raw = text "error" then .ok .kError
  else .error (text "logging.min_level must be 'info', 'warn', or 'error'")

/-- `BuildServerConfig`. -/
def buildServerConfig (config : HxrpcConfig) : Except Bytes ServerConfig :=
  match parseEndpoint (config.load (text "server.host") ++ text ":" ++
      config.load (text "server.port")) (text "rpcserver") with
  | .error error => .error error
  | .ok endpoint =>
      .ok
        { listenEndpoint := endpoint
          reactor := { maxEvents := 128 }
          discovery := loadDiscoveryConfig config
          serialization := .kProtobuf }

/-- `sink_writes_file`. -/
def sinkWritesFile (sink : LoggerSink) : Bool :=
  sink = .kFile ∨ sink = .kStderrAndFile

/-- `BuildLoggerConfig`. -/
def buildLoggerConfig (config : HxrpcConfig) : Except Bytes LoggerConfig :=
  match parseLoggerMode (config.load (text "logging.mode")) with
  | .error error => .error error
  | .ok mode =>
      match parseLoggerSink (config.load (text "logging.sink")) with
      | .error error => .error error
      | .ok sink =>
          match parseLogLevel (config.load (text "logging.min_level")) with
          | .error error => .error error
          | .ok minLevel =>
              let filePath := config.load (text "logging.file_path")
              if sinkWritesFile sink ∧ filePath = [] then
                .error (text "logging.file_path is required when logging.sink writes to file")
              else if ¬ sinkWritesFile sink ∧ filePath ≠ [] then
                .error (text "logging.file_path must be empty when logging.sink does not " ++
                  text "write to file")
              else .ok ⟨mode, sink, filePath, minLevel⟩

/-- `ServerSettings::Load`. -/
def loadServerSettings (files : Bytes → Option Bytes) (walk : Walk) (path : Bytes) :
    Except Bytes ServerSettings :=
  match loadRawConfig files walk path with
  | .error error => .error error
  | .ok rawConfig =>
      match buildServerConfig rawConfig with
      | .error error => .error error
      | .ok config => .ok ⟨config⟩

/-- `ClientSettings::Load`. -/
def loadClientSettings (files : Bytes → Option Bytes) (walk : Walk) (path : Bytes) :
    Except Bytes ClientSettings :=
  match loadRawConfig files walk path with
  | .error error => .error error
  | .ok rawConfig =>
      match buildClientConfig rawConfig with
      | .error error => .error error
      | .ok config => .ok ⟨config⟩

/-- `LoggerSettings::Load`. -/
def loadLoggerSettings (files : Bytes → Option Bytes) (walk : Walk) (path : Bytes) :
    Except Bytes LoggerSettings :=
  match loadRawConfig files walk path with
  | .error error => .error error
  | .ok rawConfig =>
      match buildLoggerConfig rawConfig with
      | .error error => .error error
      | .ok config => .ok ⟨config⟩

end Settings

end Hxrpc
