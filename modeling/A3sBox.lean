import A3sBox.Lib.Fallible
import A3sBox.Lib.Runs
import A3sBox.Core.Execution
import A3sBox.Runtime.ManagedState
import A3sBox.Runtime.BoxRecord
import A3sBox.Lib.KeyedList
import A3sBox.Runtime.BoxState
import A3sBox.Runtime.ManagedExecutionStore
import A3sBox.Runtime.StoreRuns
import A3sBox.Runtime.StoreFencing
import A3sBox.Runtime.Reservation
import A3sBox.Cli.Reconcile
import A3sBox.Compat.SandboxRecord
import A3sBox.Compat.SandboxLifecycle
import A3sBox.Compat.Repository
import A3sBox.Lib.Dfs
import A3sBox.Lib.DfsOrder
import A3sBox.Lib.SortedMap
import A3sBox.Compose.Config
import A3sBox.Compose.Normalized
import A3sBox.Compose.Normalization
import A3sBox.Lib.Vec
import A3sBox.Runtime.SnapshotStore
import A3sBox.Lib.MultiMap
import A3sBox.Lib.Str
import A3sBox.Lib.Http
import A3sBox.Compat.Routing.Parser
import A3sBox.Compat.Routing.Lease
import A3sBox.Compat.Gateway.Proxy
import A3sBox.Cli.RestartPolicy
import A3sBox.Lib.Bytes
import A3sBox.Cri.Spdy
import A3sBox.Lib.Net
import A3sBox.Core.Ipam
import A3sBox.Core.Network
import A3sBox.Oci.Reference
import A3sBox.Runtime.WarmPool
import A3sBox.Oci.BuildCache
import A3sBox.Oci.DockerIgnore
import A3sBox.Lib.Fs
import A3sBox.Oci.Layers
import A3sBox.Compose.Interpolation
import A3sBox.Runtime.Cache
import A3sBox.Lib.Slots
import A3sBox.Core.Log
import A3sBox.Lib.Glob
import A3sBox.Oci.Wildcard
import A3sBox.Compat.Routing.Hostname
import A3sBox.Lib.Keyset
import A3sBox.Compat.Reconcile
import A3sBox.Compat.Supervisor
import A3sBox.Compat.SupervisorRuns
import A3sBox.Compat.Service
import A3sBox.Compat.ServiceOutcomes
