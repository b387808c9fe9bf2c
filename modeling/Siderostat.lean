import Siderostat.Admission.Permits
import Siderostat.Admission.Restart
import Siderostat.Cluster.Consistency
import Siderostat.Cluster.Actor
import Siderostat.Cluster.TpRoute
import Siderostat.Cluster.EngineReady
import Siderostat.Cluster.Tracker
import Siderostat.Cluster.HelloReader
import Siderostat.Cluster.TpManifest
import Siderostat.Cluster.Process
import Siderostat.Cluster.ChildLog
import Siderostat.Store.Files
import Siderostat.Cluster.Shutdown
import Siderostat.Policy.Latch
import Siderostat.Policy.Force
import Siderostat.Policy.Epoch
import Siderostat.Policy.Agreement
import Siderostat.Store.LostUpdate
import Siderostat.Store.SessionGeneration
import Siderostat.Control.Readiness
import Siderostat.Control.Handoff
import Siderostat.Control.Negotiation
import Siderostat.Recovery.Timestamp
import Siderostat.Recovery.Lifecycle
import Siderostat.Recovery.Detector
import Siderostat.Tp.Budget
import Siderostat.Tp.Sessions
import Siderostat.Proxy.Pieces
import Siderostat.Proxy.Forward
import Siderostat.Proxy.Terminal
import Siderostat.Manager.Submissions
import Siderostat.Manager.Transaction
import Siderostat.Manager.PartFile
import Siderostat.Manager.Registry
import Siderostat.Websearch.Results
import Siderostat.Websearch.Outcome
import Siderostat.Websearch.Acceptance
import Siderostat.Websearch.CitationRanges
import Siderostat.Websearch.Labels
import Siderostat.Websearch.Arguments
import Siderostat.Websearch.Config
import Siderostat.Websearch.OptIn
import Siderostat.Websearch.Deltas
import Siderostat.Metrics.Key
import Siderostat.Xtask.Cache
import Siderostat.Monitor.ConnectionMode
