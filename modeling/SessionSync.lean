import SessionSync.Backend.Address
import SessionSync.Backend.Call
import SessionSync.Backend.Request
import SessionSync.Backend.Response
import SessionSync.Calendar
import SessionSync.Channel.Machine
import SessionSync.Channel.Name
import SessionSync.Channel.Slot
import SessionSync.CommandLine.Action
import SessionSync.CommandLine.Arguments
import SessionSync.CommandLine.Fault
import SessionSync.CommandLine.FirstMessage
import SessionSync.CommandLine.Grammar
import SessionSync.CommandLine.Logging
import SessionSync.CommandLine.Run
import SessionSync.CommandLine.Watch
import SessionSync.Config
import SessionSync.Config.Toml
import SessionSync.Config.TomlReader
import SessionSync.Engine.Event
import SessionSync.Engine.Frame
import SessionSync.Engine.Input
import SessionSync.Engine.Selection
import SessionSync.Engine.Snapshot
import SessionSync.Engine.State
import SessionSync.Engine.Step
import SessionSync.EntityStore
import SessionSync.Failure
import SessionSync.Json.Basic
import SessionSync.Json.Printer
import SessionSync.Json.Reader
import SessionSync.Log
import SessionSync.Main
import SessionSync.MessageStore
import SessionSync.Number.Decimal
import SessionSync.Number.Double
import SessionSync.Number.Power
import SessionSync.Proofs.Backend.Targets
import SessionSync.Proofs.Channel.Attempts
import SessionSync.Proofs.Channel.Generations
import SessionSync.Proofs.Channel.InStep
import SessionSync.Proofs.Channel.Redials
import SessionSync.Proofs.Channel.SignsOfLife
import SessionSync.Proofs.Engine.Announcements
import SessionSync.Proofs.Engine.Arrivals
import SessionSync.Proofs.Engine.AutoStart
import SessionSync.Proofs.Engine.CatchingUp
import SessionSync.Proofs.Engine.Course
import SessionSync.Proofs.Engine.GapFilling
import SessionSync.Proofs.Engine.Links
import SessionSync.Proofs.Engine.Outbound
import SessionSync.Proofs.Engine.Prompts
import SessionSync.Proofs.Engine.Reachability
import SessionSync.Proofs.Engine.Selections
import SessionSync.Proofs.Engine.SessionEnds
import SessionSync.Proofs.Engine.SessionInFocus
import SessionSync.Proofs.Engine.StateChanges
import SessionSync.Proofs.Engine.Stores
import SessionSync.Proofs.Engine.Turns
import SessionSync.Proofs.EntityStore.Changes
import SessionSync.Proofs.EntityStore.Frames
import SessionSync.Proofs.Json.MemberOrder
import SessionSync.Proofs.Json.Normal
import SessionSync.Proofs.Json.Text
import SessionSync.Proofs.Latest
import SessionSync.Proofs.Log.Coherence
import SessionSync.Proofs.Log.Delivery
import SessionSync.Proofs.Log.Extraction
import SessionSync.Proofs.Log.Gap
import SessionSync.Proofs.Log.Merging
import SessionSync.Proofs.Log.Repetition
import SessionSync.Proofs.MessageStore.Changes
import SessionSync.Proofs.MessageStore.Coherence
import SessionSync.Proofs.MessageStore.Delivery
import SessionSync.Proofs.MessageStore.DisplayBlocks
import SessionSync.Proofs.MessageStore.Merging
import SessionSync.Proofs.MessageStore.Orphans
import SessionSync.Proofs.MessageStore.PageLoads
import SessionSync.Proofs.MessageStore.Reloading
import SessionSync.Proofs.MessageStore.Rereading
import SessionSync.Proofs.MessageStore.SessionEnds
import SessionSync.Proofs.MessageStore.Tellings
import SessionSync.Proofs.MessageStore.ToolHistory
import SessionSync.Proofs.SessionStore.Listing
import SessionSync.Proofs.Sorting
import SessionSync.Proofs.Table
import SessionSync.Proofs.Tracker.Bookkeeping
import SessionSync.Proofs.Tracker.Changes
import SessionSync.Proofs.Tracker.Convergence
import SessionSync.Proofs.Tracker.Correlation
import SessionSync.Proofs.Tracker.Counting
import SessionSync.Proofs.Tracker.DisplayOrder
import SessionSync.Proofs.Tracker.Displays
import SessionSync.Proofs.Tracker.Events
import SessionSync.Proofs.Tracker.Filing
import SessionSync.Proofs.Tracker.History
import SessionSync.Proofs.Tracker.Interleavings
import SessionSync.Proofs.Tracker.Progress
import SessionSync.Proofs.Tracker.Protocols
import SessionSync.Proofs.Tracker.Records
import SessionSync.Proofs.Tracker.Redelivery
import SessionSync.Proofs.Tracker.SignatureIndex
import SessionSync.Proofs.Tracker.Stranded
import SessionSync.Proofs.Tracker.Verdicts
import SessionSync.Proofs.Wire.Codec
import SessionSync.Proofs.Wire.Entity
import SessionSync.Proofs.Wire.Frame
import SessionSync.Proofs.Wire.Message
import SessionSync.Proofs.Wire.Record
import SessionSync.Proofs.Wire.Tool
import SessionSync.Proofs.World.Course
import SessionSync.Proofs.World.FirstOpen
import SessionSync.Proofs.World.GapFills
import SessionSync.Proofs.World.Journal
import SessionSync.Proofs.World.Statuses
import SessionSync.Report.Grid
import SessionSync.Report.Line
import SessionSync.Report.Style
import SessionSync.SessionStore
import SessionSync.Sorting
import SessionSync.Table
import SessionSync.Text.Blank
import SessionSync.Text.CharWidth
import SessionSync.Text.Emoji
import SessionSync.Text.Percent
import SessionSync.Text.Preview
import SessionSync.Text.Width
import SessionSync.Timestamp
import SessionSync.Tool.Call
import SessionSync.Tool.Signature
import SessionSync.Tool.Tracker
import SessionSync.Wire.ClientFrame
import SessionSync.Wire.Codec
import SessionSync.Wire.Entity
import SessionSync.Wire.Field
import SessionSync.Wire.Message
import SessionSync.Wire.ServerFrame
import SessionSync.Wire.Session
import SessionSync.Wire.Tool
import SessionSync.World.Basic
import SessionSync.World.Scenario
import SessionSync.World.Script
import SessionSync.World.Server
