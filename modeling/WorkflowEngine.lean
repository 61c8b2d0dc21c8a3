import WorkflowEngine.Bus.Filter
import WorkflowEngine.Bus.Queue
import WorkflowEngine.Bus.Sender
import WorkflowEngine.Bus.Worker
import WorkflowEngine.Declaration.Basic
import WorkflowEngine.Declaration.Codec
import WorkflowEngine.Declaration.Compile
import WorkflowEngine.Dispatch.Chain
import WorkflowEngine.Dispatch.Dispatcher
import WorkflowEngine.Dispatch.Handler
import WorkflowEngine.Dispatch.World
import WorkflowEngine.Engine
import WorkflowEngine.Guard.Cache
import WorkflowEngine.Message.Codec
import WorkflowEngine.Proofs.Dispatch.Agreement
import WorkflowEngine.Proofs.Dispatch.ChainBound
import WorkflowEngine.Proofs.Dispatch.DepthFirst
import WorkflowEngine.Proofs.Dispatch.Session
import WorkflowEngine.Source.RuntimeView
import WorkflowEngine.Workflow.ChainGraph
import WorkflowEngine.Workflow.Codec
import WorkflowEngine.Workflow.Reachability
import WorkflowEngine.Yaml.Writer
import WorkflowEngine.Proofs.Dispatch.Handover
import WorkflowEngine.Proofs.Routing.RouteMap
import WorkflowEngine.Proofs.Routing.Requests
import WorkflowEngine.Proofs.Routing.Plan
import WorkflowEngine.Proofs.Routing.Conflicts
import WorkflowEngine.Proofs.Routing.AsyncFlag
import WorkflowEngine.Proofs.Bus.Partition
import WorkflowEngine.Proofs.Dispatch.Ledger
import WorkflowEngine.Proofs.Dispatch.Lockstep
import WorkflowEngine.Proofs.Dispatch.Handling
import WorkflowEngine.Proofs.Dispatch.Redelivery
import WorkflowEngine.Proofs.Dispatch.Retry
import WorkflowEngine.Proofs.Dispatch.Consumer
import WorkflowEngine.Proofs.Dispatch.Crew
import WorkflowEngine.Proofs.Routing.SlugForm
import WorkflowEngine.Proofs.Workflow.Registry
import WorkflowEngine.Proofs.Source.Compilation
import WorkflowEngine.Proofs.Bus.Steps
import WorkflowEngine.Proofs.Bus.Settlement
import WorkflowEngine.Proofs.Json.Numeral
import WorkflowEngine.Proofs.Document.Values
import WorkflowEngine.Proofs.Json.Text
import WorkflowEngine.Proofs.Document.Records
import WorkflowEngine.Proofs.Declaration.Codec
import WorkflowEngine.Proofs.Source.Declared
import WorkflowEngine.Proofs.Collection.Outcome
import WorkflowEngine.Proofs.Workflow.Metadata
import WorkflowEngine.Proofs.Declaration.NormalForm
import WorkflowEngine.Proofs.Routing.Provision
import WorkflowEngine.Proofs.Message.EnvelopeId
import WorkflowEngine.Proofs.Message.Codec
import WorkflowEngine.Proofs.Document.Plain
import WorkflowEngine.Proofs.Workflow.Codec
import WorkflowEngine.Proofs.Declaration.ReadBack
import WorkflowEngine.Proofs.Guard.Transparency
import WorkflowEngine.Proofs.Dispatch.Account
import WorkflowEngine.Proofs.Dispatch.DeeperBound
import WorkflowEngine.Proofs.Dispatch.Visits
import WorkflowEngine.Proofs.Workflow.Reachability
import WorkflowEngine.Proofs.Workflow.ChainSearch
import WorkflowEngine.Proofs.Dispatch.Breakdown
import WorkflowEngine.Proofs.Routing.Apart
import WorkflowEngine.Proofs.Collection.Distinct
import WorkflowEngine.Proofs.Message.Stamps
import WorkflowEngine.Proofs.Bus.Stages
import WorkflowEngine.Proofs.Bus.Delivery
import WorkflowEngine.Proofs.Bus.Copies
import WorkflowEngine.Proofs.Workflow.Insertions
import WorkflowEngine.Proofs.Guard.Bookkeeping
import WorkflowEngine.Proofs.Workflow.Decoders
import WorkflowEngine.Proofs.Declaration.Merging
import WorkflowEngine.Proofs.Routing.Endings
import WorkflowEngine.Proofs.Workflow.Independence
import WorkflowEngine.Proofs.Dispatch.Identity
import WorkflowEngine.Proofs.Workflow.Violations
import WorkflowEngine.Proofs.Routing.Prefix
import WorkflowEngine.Proofs.Text.Octets
import WorkflowEngine.Proofs.Routing.RouteTable
import WorkflowEngine.Proofs.Settings.Layers
import WorkflowEngine.Proofs.Number.Interval
import WorkflowEngine.Proofs.Number.Shortest
import WorkflowEngine.Proofs.Json.Injective
import WorkflowEngine.Proofs.Source.RuntimeView
