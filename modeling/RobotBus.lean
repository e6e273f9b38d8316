import RobotBus.Bus.Basic
import RobotBus.Bus.Service
import RobotBus.Bus.Traffic
import RobotBus.Bus.Value
import RobotBus.Callback
import RobotBus.Callback.Script
import RobotBus.Directory
import RobotBus.Event.Basic
import RobotBus.Event.Json
import RobotBus.EventList.Aesl
import RobotBus.EventList.Failure
import RobotBus.EventList.Format
import RobotBus.EventList.Records
import RobotBus.EventNames
import RobotBus.EventNames.Request
import RobotBus.FilterKeeper
import RobotBus.Hub
import RobotBus.Json.Builder
import RobotBus.Json.Fields
import RobotBus.Json.Printer
import RobotBus.Json.Token
import RobotBus.Json.Tree
import RobotBus.Line
import RobotBus.Line.Scripted
import RobotBus.Markup.Attribute
import RobotBus.Markup.Nesting
import RobotBus.Markup.Reference
import RobotBus.Markup.Token
import RobotBus.NodeAccess
import RobotBus.Problem
import RobotBus.Proofs.Bus.Address
import RobotBus.Proofs.Bus.Deed
import RobotBus.Proofs.Bus.Exchange
import RobotBus.Proofs.Bus.Forwarding
import RobotBus.Proofs.Bus.Grant
import RobotBus.Proofs.Bus.Network
import RobotBus.Proofs.Bus.Numbering
import RobotBus.Proofs.Bus.Outcome
import RobotBus.Proofs.Bus.Path
import RobotBus.Proofs.Bus.Service
import RobotBus.Proofs.Bus.Variables
import RobotBus.Proofs.Custody
import RobotBus.Proofs.Directory
import RobotBus.Proofs.Emission
import RobotBus.Proofs.EventList.Documents
import RobotBus.Proofs.EventList.Nested
import RobotBus.Proofs.EventList.Persistence
import RobotBus.Proofs.EventList.Truncation
import RobotBus.Proofs.EventNames
import RobotBus.Proofs.EventNames.Export
import RobotBus.Proofs.EventNames.Refusal
import RobotBus.Proofs.FilterKeeper
import RobotBus.Proofs.FilterKeeper.Sweeping
import RobotBus.Proofs.Hearing
import RobotBus.Proofs.Hub
import RobotBus.Proofs.Json.Fields
import RobotBus.Proofs.Json.Numeral
import RobotBus.Proofs.Json.Printing
import RobotBus.Proofs.Json.Reading
import RobotBus.Proofs.Json.Spelling
import RobotBus.Proofs.Json.Values
import RobotBus.Proofs.Json.Writing
import RobotBus.Proofs.Markup.Attributes
import RobotBus.Proofs.Markup.Cutting
import RobotBus.Proofs.Markup.Document
import RobotBus.Proofs.Markup.Elements
import RobotBus.Proofs.Markup.Forest
import RobotBus.Proofs.Markup.Scanning
import RobotBus.Proofs.Markup.Spelling
import RobotBus.Proofs.RateWindow
import RobotBus.Proofs.Router
import RobotBus.Proofs.Router.Panics
import RobotBus.Proofs.Sending.Account
import RobotBus.Proofs.Sending.Ledger
import RobotBus.Proofs.Sending.Outcome
import RobotBus.Proofs.Session.Company
import RobotBus.Proofs.Session.Connecting
import RobotBus.Proofs.Session.Delivery
import RobotBus.Proofs.Session.Failing
import RobotBus.Proofs.Session.Loop
import RobotBus.Proofs.Session.Situation
import RobotBus.Proofs.Session.Stage
import RobotBus.Proofs.Session.Teardown
import RobotBus.Proofs.Settings
import RobotBus.Proofs.Simulation.Beside
import RobotBus.Proofs.Simulation.Inert
import RobotBus.Proofs.World.Acts
import RobotBus.Proofs.World.Attendance
import RobotBus.Proofs.World.Basic
import RobotBus.Proofs.World.Crowd
import RobotBus.Proofs.World.Isolation
import RobotBus.Proofs.World.Offline
import RobotBus.Proofs.World.Privacy
import RobotBus.Proofs.World.Queued
import RobotBus.Proofs.World.Refusal
import RobotBus.Proofs.World.Routing
import RobotBus.Proofs.World.Schedule
import RobotBus.Proofs.World.Standin
import RobotBus.Proofs.World.Subscribing
import RobotBus.Proofs.World.Survival
import RobotBus.Proofs.World.Variables
import RobotBus.Proofs.World.Workload
import RobotBus.RateWindow
import RobotBus.Router
import RobotBus.Session.Basic
import RobotBus.Session.Loop
import RobotBus.Settings
import RobotBus.Settings.Json
import RobotBus.Simulation.Run
import RobotBus.Simulation.Step
import RobotBus.StoredFile
import RobotBus.Subscriptions
import RobotBus.Text.Affix
import RobotBus.Text.Blank
import RobotBus.Text.CodeRange
import RobotBus.Text.Digits
import RobotBus.Text.Extending
import RobotBus.Text.Graphic
import RobotBus.Text.Quoted
import RobotBus.WordValue
import RobotBus.WordValue.Json
