import Quorate.Association
import Quorate.Text.Blank
import Quorate.Text.Numeral
import Quorate.Proofs.Text
import Quorate.Binary64.Order
import Quorate.Binary64.Reader
import Quorate.Binary64.Shortest
import Quorate.Proofs.Binary64.Order
import Quorate.Time.Duration
import Quorate.Proofs.Time.Duration
import Quorate.Json.Basic
import Quorate.Json.Printer
import Quorate.Json.Reader
import Quorate.Json.Record
import Quorate.Proofs.Json.Text
import Quorate.Proofs.Json.RoundTrip
import Quorate.Proofs.Json.Record
import Quorate.Toml.Basic
import Quorate.Toml.Moment
import Quorate.Toml.Number
import Quorate.Toml.Text
import Quorate.Toml.Statement
import Quorate.Toml.Reader
import Quorate.Proofs.Toml.Names
import Quorate.Hash.Blake3
import Quorate.Peer
import Quorate.Placement
import Quorate.Proofs.Placement
import Quorate.Proofs.Placement.Membership
import Quorate.Gate
import Quorate.Gate.Crowd
import Quorate.Proofs.Gate.Crowd
import Quorate.Metrics.Histogram
import Quorate.Metrics.Basic
import Quorate.Metrics.Exposition
import Quorate.Metrics.Reading
import Quorate.Proofs.Metrics.Histogram
import Quorate.Proofs.Metrics.Reading
import Quorate.Proofs.Metrics.Exposition
import Quorate.Failure
import Quorate.Store.Key
import Quorate.Store.Version
import Quorate.Store.Status
import Quorate.Store.Response
import Quorate.Store.Shelf
import Quorate.Store.Replica
import Quorate.Store.Cluster
import Quorate.Store.Document
import Quorate.Proofs.Store.Document
import Quorate.Proofs.Store.Completion
import Quorate.Proofs.Store.Contents
import Quorate.Proofs.Store.Frame
import Quorate.Proofs.Store.Answers
import Quorate.Proofs.Store.Faults
import Quorate.Quorum
import Quorate.Proofs.Quorum
import Quorate.Proofs.Quorum.Order
import Quorate.Proofs.Quorum.Monotone
import Quorate.Proofs.Quorum.Codes
import Quorate.Proofs.Quorum.Words
import Quorate.Journal
import Quorate.Notice
import Quorate.Messaging.Message
import Quorate.Messaging.Registry
import Quorate.Messaging.Network
import Quorate.Messaging.Exchange
import Quorate.Messaging.Traffic
import Quorate.Proofs.Messaging.Registry
import Quorate.Proofs.Messaging.Exchange
import Quorate.Proofs.Messaging.Outcome
import Quorate.Proofs.Messaging.Traffic
import Quorate.Proofs.Messaging.Copies
import Quorate.Proofs.Messaging.Pending
import Quorate.Proofs.Messaging.Agreement
import Quorate.Proofs.Messaging.Absence
import Quorate.Proofs.Messaging.History
import Quorate.Proofs.Messaging.Routing
import Quorate.Proofs.Messaging.Taking
import Quorate.Proofs.Messaging.Punctuality
import Quorate.Proofs.Messaging.Pledge
import Quorate.Proofs.Messaging.Timing
import Quorate.Proofs.Messaging.Conservation
import Quorate.Write.Basic
import Quorate.Write.Run
import Quorate.Write.Alone
import Quorate.Write.Rehearsal
import Quorate.Write.Audience
import Quorate.Write.Manager
import Quorate.Workload
import Quorate.Metering
import Quorate.Proofs.Write.Rounds
import Quorate.Proofs.Write.Rehearsal
import Quorate.Proofs.Write.Verdict
import Quorate.Proofs.Write.Bound
import Quorate.Proofs.Write.Workload
import Quorate.Proofs.Write.Independence
import Quorate.Proofs.Write.Stored
import Quorate.Proofs.Write.Placement
import Quorate.Proofs.Write.Residue
import Quorate.Proofs.Write.Holding
import Quorate.Proofs.Write.Frame
import Quorate.Proofs.Write.Answers
import Quorate.Proofs.Write.Countdown
import Quorate.Proofs.Write.Accounts
import Quorate.Proofs.Write.Audience
import Quorate.Proofs.Write.Remaining
import Quorate.Proofs.Write.Balance
import Quorate.Proofs.Write.Manager
import Quorate.Process.Step
import Quorate.Process.Session
import Quorate.Process.Undertaking
import Quorate.Proofs.Process.Session
import Quorate.Proofs.Process.Undertaking
import Quorate.Proofs.Process.Discipline
import Quorate.Proofs.Process.Abandonment
import Quorate.Simulation.World
import Quorate.Simulation.Task
import Quorate.Simulation.Schedule
import Quorate.Proofs.Simulation.Turns
import Quorate.Scenario.Step
import Quorate.Scenario.State
import Quorate.Scenario.Storage
import Quorate.Scenario.Messaging
import Quorate.Scenario.Gates
import Quorate.Scenario.Process
import Quorate.Scenario.Run
import Quorate.Proofs.Scenario.Storage
import Quorate.Proofs.Scenario.Gates
import Quorate.Proofs.Scenario.Process
import Quorate.Settings.Basic
import Quorate.Settings.Setting
import Quorate.Settings.Conversion
import Quorate.Settings.Document
import Quorate.Settings.Layers
import Quorate.Settings.Load
import Quorate.Proofs.Settings.Document
import Quorate.Proofs.Settings.Layers
import Quorate.Proofs.Settings.Load
import Quorate.CommandLine.Options
import Quorate.CommandLine.Command
import Quorate.CommandLine.Run
import Quorate.Proofs.CommandLine.Put
import Quorate.Main
