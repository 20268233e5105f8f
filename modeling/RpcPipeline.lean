import RpcPipeline.Config.Format
import RpcPipeline.Config.Validation
import RpcPipeline.Data.Json
import RpcPipeline.Pipeline.Pipeline
import RpcPipeline.Report.Call
import RpcPipeline.Report.Run
import RpcPipeline.Scenario.Answering
import RpcPipeline.Scenario.Blacklisting
import RpcPipeline.Scenario.Limiting
import RpcPipeline.Scenario.Piping
import RpcPipeline.Scenario.Queueing
import RpcPipeline.Scenario.Requests
import RpcPipeline.Scenario.Resolving
import RpcPipeline.Scenario.Retrying
import RpcPipeline.Scenario.Script
import RpcPipeline.Scenario.Selecting
import RpcPipeline.Scenario.Watching
import RpcPipeline.Proofs.Queue.Lanes
import RpcPipeline.Proofs.Queue.Sound
import RpcPipeline.Proofs.Queue.Calls
import RpcPipeline.Proofs.Queue.Session
import RpcPipeline.Proofs.Queue.Accounts
import RpcPipeline.Proofs.Queue.Conservation
import RpcPipeline.Proofs.Queue.Progress
import RpcPipeline.Proofs.Queue.Backend
import RpcPipeline.Proofs.Hosts.Fleet
import RpcPipeline.Proofs.Hosts.Calls
import RpcPipeline.Proofs.Retry.Attempts
import RpcPipeline.Proofs.Selection.Offer
import RpcPipeline.Proofs.Selection.Sound
import RpcPipeline.Proofs.Pipeline.Dispatch
import RpcPipeline.Proofs.Dns.Refresher
import RpcPipeline.Proofs.Pipeline.Traffic
import RpcPipeline.Proofs.Number.Exact
import RpcPipeline.Proofs.Number.Double
import RpcPipeline.Proofs.Pipeline.Admission
import RpcPipeline.Proofs.Queue.Journal
import RpcPipeline.Proofs.Queue.Turns
import RpcPipeline.Proofs.Queue.Fairness
import RpcPipeline.Proofs.Queue.Custody
import RpcPipeline.Proofs.Selection.Custody
import RpcPipeline.Proofs.Pipeline.Custody
import RpcPipeline.Proofs.Retry.Contract
import RpcPipeline.Proofs.Queue.Order
import RpcPipeline.Proofs.Retry.Notes
import RpcPipeline.Proofs.Retry.Labels
import RpcPipeline.Proofs.Retry.Pauses
import RpcPipeline.Proofs.Hosts.Permits
import RpcPipeline.Proofs.Hosts.Evolution
import RpcPipeline.Proofs.Hosts.Lineup
import RpcPipeline.Proofs.Pipeline.Churn
import RpcPipeline.Proofs.Dns.Course
import RpcPipeline.Proofs.Dns.Cache
import RpcPipeline.Proofs.Dns.Rounds
import RpcPipeline.Proofs.Hosts.Exclusion
import RpcPipeline.Proofs.Selection.Pinning
import RpcPipeline.Proofs.Selection.Stickiness
import RpcPipeline.Proofs.Queue.Service
import RpcPipeline.Proofs.Queue.Acts
import RpcPipeline.Proofs.Queue.Capacity
import RpcPipeline.Proofs.Config.Format
import RpcPipeline.Proofs.Config.Validation
import RpcPipeline.Proofs.Hosts.Coverage
import RpcPipeline.Proofs.Selection.Coverage
import RpcPipeline.Proofs.Queue.Closing
import RpcPipeline.Proofs.Queue.Withdrawal
import RpcPipeline.Proofs.Hosts.Membership
import RpcPipeline.Proofs.Number.Real
import RpcPipeline.Proofs.Selection.Balance
import RpcPipeline.Proofs.Dns.Memory
import RpcPipeline.Proofs.Hosts.Latency
import RpcPipeline.Proofs.Selection.Penalties
import RpcPipeline.Proofs.Selection.Hints
import RpcPipeline.Proofs.Call.Reception
import RpcPipeline.Proofs.Call.Storage
import RpcPipeline.Proofs.Call.Memory
import RpcPipeline.Proofs.Call.Requests
import RpcPipeline.Proofs.Text.Pieces
import RpcPipeline.Proofs.Text.Percent
import RpcPipeline.Proofs.Call.Template
import RpcPipeline.Proofs.Call.Rendering
import RpcPipeline.Proofs.Queue.Refusal
import RpcPipeline.Proofs.Queue.Attendance
import RpcPipeline.Proofs.Uri.Address
import RpcPipeline.Proofs.Uri.Identity
import RpcPipeline.Proofs.Hosts.Telling
import RpcPipeline.Proofs.Queue.Dispatch
