import KeliNode.Lib.Text
import KeliNode.Panel.Types
import KeliNode.PortForward.Plan
import KeliNode.Lib.FirstOwner
import KeliNode.PortForward.Ranges
import KeliNode.PortForward.Owner
import KeliNode.PortForward.Safety
import KeliNode.Core.Plan
import KeliNode.PortForward.Iptables
import KeliNode.PortForward.Firewall
import KeliNode.PortForward.Managed
import KeliNode.PortForward.Listing
import KeliNode.PortForward.Repair
import KeliNode.PortForward.Fixpoint
import KeliNode.PortForward.Hijack
import KeliNode.Report.Activity
import KeliNode.Report.Partition
import KeliNode.Report.Ledger
import KeliNode.Lib.Run
import KeliNode.Lib.KeyedFold
import KeliNode.Core.Running
import KeliNode.Control.Apply
import KeliNode.Control.Converge
import KeliNode.User.Sync
import KeliNode.User.Diff
import KeliNode.Runner.Users
import KeliNode.Runner.Tick
import KeliNode.Runtime.Build
import KeliNode.Runner.Rebuild
import KeliNode.Runner.Pending
import KeliNode.Runner.Deliver
import KeliNode.Runner.Latest
import KeliNode.Runner.Changes
import KeliNode.Runner.Converge
import KeliNode.Runner.DiffSound
import KeliNode.Lib.PosixPath
import KeliNode.Lib.FileName
import KeliNode.Lib.Json
import KeliNode.Lib.Denotes
import KeliNode.Core.Capability
import KeliNode.Core.Validate
import KeliNode.Core.Outbound
import KeliNode.Core.Routes
import KeliNode.Core.Render
import KeliNode.Core.Agree
import KeliNode.Core.RouteSteps
import KeliNode.Core.RoutesKept
import KeliNode.Core.OutboundTags
import KeliNode.Control.Sockets
import KeliNode.Runner.SameUsers
import KeliNode.Lib.Greedy
import KeliNode.Runtime.Listeners
import KeliNode.Runtime.History
import KeliNode.Runtime.Apart
import KeliNode.Control.Again
import KeliNode.Lib.Through
import KeliNode.Runner.Events
import KeliNode.Runner.Attempt
import KeliNode.Runner.Reach
import KeliNode.Runner.Accepted
import KeliNode.Runner.Attribution
import KeliNode.Runner.Receipts
import KeliNode.Proxy.Config
import KeliNode.Proxy.Normalized
import KeliNode.Lib.MaxBy
import KeliNode.Lib.Utf8
import KeliNode.Proxy.Route
import KeliNode.Proxy.Manager
import KeliNode.Proxy.Converge
import KeliNode.Proxy.Match
import KeliNode.Lib.Records
import KeliNode.Lib.DotSegments
import KeliNode.Lib.Url
import KeliNode.Lib.Windows
import KeliNode.Proxy.Request
import KeliNode.Proxy.Contained
import KeliNode.Lib.Delivery
import KeliNode.Proxy.Read
import KeliNode.Proxy.Response
import KeliNode.Proxy.Framing
import KeliNode.Proxy.Locations
import KeliNode.Proxy.Codec
import KeliNode.Proxy.ForwardHeaders
import KeliNode.Proxy.Validation
import KeliNode.Proxy.Idempotent
import KeliNode.Lib.Shell
import KeliNode.Upgrade.Script
import KeliNode.Upgrade.Manager
import KeliNode.Upgrade.Quoting
import KeliNode.Upgrade.Once
import KeliNode.Report.Exact
import KeliNode.Config.Paths
import KeliNode.User.Laws
import KeliNode.Node.Manager
import KeliNode.Node.Reconcile
import KeliNode.Node.Repeatable
import KeliNode.PortForward.Expression
import KeliNode.Lib.FirstWins
import KeliNode.Config.Resolve
import KeliNode.Machine.Resolve
import KeliNode.Machine.Merge
import KeliNode.Machine.Material
import KeliNode.Panel.Certificate
import KeliNode.Machine.Directories
import KeliNode.PortForward.Cleanup
import KeliNode.Process.Supervisor
import KeliNode.Process.Live
import KeliNode.Realtime.Message
import KeliNode.Lib.Labels
import KeliNode.Realtime.Session
import KeliNode.Realtime.Workers
import KeliNode.Realtime.Channel
import KeliNode.Realtime.Delivery
import KeliNode.Realtime.Waiting
import KeliNode.Lib.InTurn
import KeliNode.Lib.Sharing
import KeliNode.Runner.Sharing
import KeliNode.Machine.Partition
import KeliNode.Lib.Durable
import KeliNode.Lib.Replica
import KeliNode.User.Store
import KeliNode.Runner.Restart
import KeliNode.Runner.CatchUp
import KeliNode.User.FileFormat
import KeliNode.Core.Certificates
