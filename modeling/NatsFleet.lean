import NatsFleet.Access.Inference
import NatsFleet.Access.Kubeconfig
import NatsFleet.Access.Route
import NatsFleet.Api.Answer
import NatsFleet.Api.Client
import NatsFleet.Api.Exchange
import NatsFleet.Api.Registration
import NatsFleet.Api.Resource
import NatsFleet.Api.Server
import NatsFleet.Cli.Arguments
import NatsFleet.Cli.Filter
import NatsFleet.Cli.Needs
import NatsFleet.Cli.Outcome
import NatsFleet.Cluster.Basic
import NatsFleet.Cluster.Condition
import NatsFleet.Cluster.Diff
import NatsFleet.Cluster.KeyMap
import NatsFleet.Cluster.Spec
import NatsFleet.Cluster.Status
import NatsFleet.Controller.Basic
import NatsFleet.Controller.Pass
import NatsFleet.Controller.Plan
import NatsFleet.Controller.Progress
import NatsFleet.Controller.Signal
import NatsFleet.Digest.Sha256
import NatsFleet.Failure
import NatsFleet.Fleet.Basic
import NatsFleet.Fleet.Dispatch
import NatsFleet.Fleet.Loop
import NatsFleet.Fleet.Schedule
import NatsFleet.Fleet.Startup
import NatsFleet.Fleet.Stop
import NatsFleet.Fleet.Task
import NatsFleet.Fleet.Watching
import NatsFleet.Http.Address
import NatsFleet.Http.Basic
import NatsFleet.Http.Status
import NatsFleet.Json.Basic
import NatsFleet.Json.Complaint
import NatsFleet.Json.Decode
import NatsFleet.Json.Document
import NatsFleet.Json.Number
import NatsFleet.Json.Reader
import NatsFleet.Json.Shortest
import NatsFleet.Layout
import NatsFleet.Log
import NatsFleet.Log.Line
import NatsFleet.Main
import NatsFleet.Manifest
import NatsFleet.Naming
import NatsFleet.Object.ConfigMap
import NatsFleet.Object.Metadata
import NatsFleet.Object.Pod
import NatsFleet.Object.Service
import NatsFleet.Platform
import NatsFleet.Proofs.Account
import NatsFleet.Proofs.Alone
import NatsFleet.Proofs.Availability
import NatsFleet.Proofs.Belonging
import NatsFleet.Proofs.Bench
import NatsFleet.Proofs.Board
import NatsFleet.Proofs.Cancelling
import NatsFleet.Proofs.Census
import NatsFleet.Proofs.Chronicle
import NatsFleet.Proofs.Clashes
import NatsFleet.Proofs.Classification
import NatsFleet.Proofs.Clearing
import NatsFleet.Proofs.Closing
import NatsFleet.Proofs.Conditions
import NatsFleet.Proofs.Conduct
import NatsFleet.Proofs.Convergence
import NatsFleet.Proofs.Countdown
import NatsFleet.Proofs.Crew
import NatsFleet.Proofs.Custody
import NatsFleet.Proofs.Decisions
import NatsFleet.Proofs.Diary
import NatsFleet.Proofs.Digits
import NatsFleet.Proofs.Dispatch
import NatsFleet.Proofs.Docket
import NatsFleet.Proofs.Document
import NatsFleet.Proofs.Drive
import NatsFleet.Proofs.Entries
import NatsFleet.Proofs.HandOver
import NatsFleet.Proofs.Heeding
import NatsFleet.Proofs.Holders
import NatsFleet.Proofs.Identities
import NatsFleet.Proofs.Incumbents
import NatsFleet.Proofs.JsonText
import NatsFleet.Proofs.Keys
import NatsFleet.Proofs.Ledger
import NatsFleet.Proofs.Lifecycle
import NatsFleet.Proofs.Lineage
import NatsFleet.Proofs.Listings
import NatsFleet.Proofs.Loops
import NatsFleet.Proofs.Members
import NatsFleet.Proofs.Memo
import NatsFleet.Proofs.Midway
import NatsFleet.Proofs.Minutes
import NatsFleet.Proofs.Mirror
import NatsFleet.Proofs.Neighbours
import NatsFleet.Proofs.Owners
import NatsFleet.Proofs.Partition
import NatsFleet.Proofs.Polling
import NatsFleet.Proofs.Publishing
import NatsFleet.Proofs.Quiescence
import NatsFleet.Proofs.Readback
import NatsFleet.Proofs.Recording
import NatsFleet.Proofs.References
import NatsFleet.Proofs.Relisting
import NatsFleet.Proofs.Reordering
import NatsFleet.Proofs.Replica
import NatsFleet.Proofs.Report
import NatsFleet.Proofs.Returning
import NatsFleet.Proofs.Rolling
import NatsFleet.Proofs.RoundTrip
import NatsFleet.Proofs.Rounds
import NatsFleet.Proofs.Sameness
import NatsFleet.Proofs.Selection
import NatsFleet.Proofs.Shutdown
import NatsFleet.Proofs.Skipping
import NatsFleet.Proofs.Supply
import NatsFleet.Proofs.Surplus
import NatsFleet.Proofs.Templates
import NatsFleet.Proofs.Ticks
import NatsFleet.Proofs.Tracking
import NatsFleet.Proofs.Traits
import NatsFleet.Proofs.Updating
import NatsFleet.Proofs.Upkeep
import NatsFleet.Registrar
import NatsFleet.Registry
import NatsFleet.Revision
import NatsFleet.Schema
import NatsFleet.ServerConfig
import NatsFleet.Text.Base64
import NatsFleet.Text.Printable
import NatsFleet.Text.Quoted
import NatsFleet.Text.Similar
import NatsFleet.Text.Whole
import NatsFleet.Timestamp
import NatsFleet.Watch.Backoff
import NatsFleet.Watch.Classifier
import NatsFleet.Watch.Course
import NatsFleet.Watch.Notice
import NatsFleet.Watch.Watcher
import NatsFleet.Yaml.Reader
import NatsFleet.Yaml.Scanner
import NatsFleet.Yaml.Token
