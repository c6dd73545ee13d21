import Hxrpc.Lib.BigEndian
import Hxrpc.Lib.StreamCut
import Hxrpc.Lib.ProtoWire
import Hxrpc.Lib.Decimal
import Hxrpc.Lib.Custody
import Hxrpc.Lib.SlashPath
import Hxrpc.Lib.GuardedRun
import Hxrpc.Lib.MonotoneStack
import Hxrpc.Lib.Ledger
import Hxrpc.Lib.Epoll
import Hxrpc.Lib.Separators
import Hxrpc.Lib.HandOver
import Hxrpc.Syscall
import Hxrpc.Types
import Hxrpc.StringUtils
import Hxrpc.Config
import Hxrpc.ConfigFile
import Hxrpc.Document
import Hxrpc.Protobuf
import Hxrpc.Codec
import Hxrpc.Decoding
import Hxrpc.Framing
import Hxrpc.MessagePool
import Hxrpc.PooledMessage
import Hxrpc.Pooling
import Hxrpc.Dispatcher
import Hxrpc.Registry
import Hxrpc.Handling
import Hxrpc.Server.Journal
import Hxrpc.Server.ConnectionManager
import Hxrpc.Server.Operations
import Hxrpc.Server.Input
import Hxrpc.Server.Deframing
import Hxrpc.Server.Output
import Hxrpc.Server.RpcServer
import Hxrpc.Server.Reactor
import Hxrpc.Server.Invariant
import Hxrpc.Server.Runs
import Hxrpc.Server.History
import Hxrpc.Server.Exchange
import Hxrpc.Server.Guarantees
import Hxrpc.Client.Transport
import Hxrpc.Client.Transfer
import Hxrpc.Client.Pool
import Hxrpc.Client.Descriptors
import Hxrpc.Client.Ownership
import Hxrpc.Client.Pairing
import Hxrpc.Client.Answers
import Hxrpc.Client.RpcClient
import Hxrpc.Client.Synchronous
import Hxrpc.Client.Reuse
import Hxrpc.Client.Wire
import Hxrpc.Client.Correlation
import Hxrpc.Async.Task
import Hxrpc.Async.Resumption
import Hxrpc.Async.Direct
import Hxrpc.Async.Runtime
import Hxrpc.Async.Waits
import Hxrpc.Async.Results
import Hxrpc.Async.Arming
import Hxrpc.Discovery.ZooKeeper
import Hxrpc.Discovery.Registrar
import Hxrpc.Discovery.Registration
import Hxrpc.Discovery.Resolver
import Hxrpc.Discovery.Refresh
import Hxrpc.Discovery.Publication
import Hxrpc.Discovery.Cache
import Hxrpc.Discovery.Watching
import Hxrpc.Discovery.Coherence
import Hxrpc.Discovery.Session
import Hxrpc.Numerals
import Hxrpc.Settings
import Hxrpc.NumericSettings
import Hxrpc.EndpointText
import Hxrpc.Discovery.Static
import Hxrpc.Discovery.Directory
import Hxrpc.Discovery.Listing
import Hxrpc.Discovery.Serving
import Hxrpc.Logger
import Hxrpc.SettingsFile
import Hxrpc.Deployment
import Hxrpc.Logging
import Hxrpc.LogSinks
import Hxrpc.Deframers
import Hxrpc.EndToEnd
import Hxrpc.Network
import Hxrpc.Delivery
import Hxrpc.ServiceFailure
