import Sleuthgraph.Lib.Readers
import Sleuthgraph.Lib.Csv
import Sleuthgraph.Lib.Programs
import Sleuthgraph.Lib.Agreement
import Sleuthgraph.Lib.Logs
import Sleuthgraph.Lib.Tables
import Sleuthgraph.Lib.UniqueTables
import Sleuthgraph.Lib.Histories
import Sleuthgraph.Lib.Transactions
import Sleuthgraph.Lib.Hurdles
import Sleuthgraph.Lib.Systems
import Sleuthgraph.Lib.Threads
import Sleuthgraph.Lib.MovingWindows
import Sleuthgraph.Lib.Routing
import Sleuthgraph.Lib.Scripts
import Sleuthgraph.Lib.ReadCommitted
import Sleuthgraph.Python
import Sleuthgraph.Lib.Caps
import Sleuthgraph.Lib.Firsts
import Sleuthgraph.Lib.Listings
import Sleuthgraph.Lib.Upserts
import Sleuthgraph.Lib.Spans
import Sleuthgraph.Text
import Sleuthgraph.Auth.ClientIp
import Sleuthgraph.Auth.AddressTheorems
import Sleuthgraph.Graph.CypherMap
import Sleuthgraph.Graph.CypherMapTheorems
import Sleuthgraph.Graph.Validators
import Sleuthgraph.Graph.Age
import Sleuthgraph.Graph.AgeTheorems
import Sleuthgraph.Graph.RunCypher
import Sleuthgraph.Graph.ValidatorTheorems
import Sleuthgraph.Store
import Sleuthgraph.Datetime
import Sleuthgraph.Schemas
import Sleuthgraph.Entities.Repository
import Sleuthgraph.Relationships.Repository
import Sleuthgraph.Graph.Moves
import Sleuthgraph.Graph.MirrorTheorems
import Sleuthgraph.Graph.VertexTheorems
import Sleuthgraph.Lib.Sha256
import Sleuthgraph.Evidence.Repository
import Sleuthgraph.Evidence.LedgerTheorems
import Sleuthgraph.Evidence.Integrity
import Sleuthgraph.Evidence.Export
import Sleuthgraph.Auth.OidcProvision
import Sleuthgraph.Auth.RateLimit
import Sleuthgraph.Auth.OidcProvisionTheorems
import Sleuthgraph.Auth.Bootstrap
import Sleuthgraph.Auth.OidcCallback
import Sleuthgraph.Auth.OidcCallbackTheorems
import Sleuthgraph.Auth.FrontDoors
import Sleuthgraph.Auth.ThrottleTheorems
import Sleuthgraph.Lib.Urls
import Sleuthgraph.Lib.UrlPaths
import Sleuthgraph.Lib.DollarQuotes
import Sleuthgraph.Auth.OidcState
import Sleuthgraph.Auth.OidcStateTheorems
import Sleuthgraph.Auth.LoginSystem
import Sleuthgraph.Auth.LoginSystemTheorems
import Sleuthgraph.Auth.IdToken
import Sleuthgraph.Auth.IdTokenTheorems
import Sleuthgraph.Plugins.Base
import Sleuthgraph.Plugins.Http
import Sleuthgraph.Plugins.Builtin.CrtSh
import Sleuthgraph.Plugins.Builtin.WaybackCdx
import Sleuthgraph.Plugins.Builtin.VirusTotal
import Sleuthgraph.Plugins.Builtin.Shodan
import Sleuthgraph.Plugins.Builtin.Hibp
import Sleuthgraph.Plugins.Builtin.Byok
import Sleuthgraph.Plugins.Runner
import Sleuthgraph.Plugins.TextTheorems
import Sleuthgraph.Plugins.Builtin.CapTheorems
import Sleuthgraph.Plugins.Builtin.ExtractTheorems
import Sleuthgraph.Plugins.Builtin.SnapshotTheorems
import Sleuthgraph.Plugins.Builtin.DnsWhois
import Sleuthgraph.Plugins.Builtin.LabelTheorems
import Sleuthgraph.Plugins.Builtin.PathTheorems
import Sleuthgraph.Plugins.Builtin.Requests
import Sleuthgraph.Plugins.Builtin.ReportTheorems
import Sleuthgraph.Plugins.Plans
import Sleuthgraph.Plugins.RunnerTheorems
import Sleuthgraph.Plugins.MergeTheorems
import Sleuthgraph.Plugins.Hurdles
import Sleuthgraph.Plugins.RerunTheorems
import Sleuthgraph.Plugins.HurdleTheorems
import Sleuthgraph.Plugins.AtomicityTheorems
import Sleuthgraph.Plugins.FactTheorems
import Sleuthgraph.Queue.Tasks
import Sleuthgraph.Queue.TasksTheorems
import Sleuthgraph.Queue.Enqueue
import Sleuthgraph.Queue.EnqueueTheorems
import Sleuthgraph.Plugins.Logs
import Sleuthgraph.Plugins.Dispatch
import Sleuthgraph.Plugins.Lifecycle
import Sleuthgraph.Plugins.LifecycleTheorems
import Sleuthgraph.Plugins.Refinement
import Sleuthgraph.Queue.DeliveryTheorems
import Sleuthgraph.Cases.Repository
import Sleuthgraph.Api.Routes
import Sleuthgraph.Api.Server
import Sleuthgraph.Cases.RequestTheorems
import Sleuthgraph.Api.CaseSteps
import Sleuthgraph.Api.RouteTheorems
import Sleuthgraph.Api.IsolationTheorems
import Sleuthgraph.Api.HistoryTheorems
import Sleuthgraph.Api.Application
import Sleuthgraph.Api.ApplicationTheorems
import Sleuthgraph.Evidence.LinkTheorems
import Sleuthgraph.Evidence.ExportTheorems
import Sleuthgraph.Graph.DumpTheorems
import Sleuthgraph.Api.ReadTheorems
import Sleuthgraph.Api.SecrecyTheorems
import Sleuthgraph.Api.PaginationTheorems
import Sleuthgraph.Plugins.LogTheorems
import Sleuthgraph.Dedup.Scripts
import Sleuthgraph.Dedup.KeysTheorems
import Sleuthgraph.Plugins.Builtin.GithubPublic
import Sleuthgraph.Plugins.Builtin.OpenCorporates
import Sleuthgraph.Plugins.Builtin.EvidenceOnly
import Sleuthgraph.Plugins.Builtin.Builtins
import Sleuthgraph.Plugins.RefTheorems
import Sleuthgraph.Plugins.NetworkTheorems
import Sleuthgraph.Plugins.Arrivals
import Sleuthgraph.Plugins.BodyTheorems
import Sleuthgraph.Plugins.ToleranceTheorems
import Sleuthgraph.Credentials.Repository
import Sleuthgraph.Credentials.VaultTheorems
import Sleuthgraph.Credentials.IsolationTheorems
