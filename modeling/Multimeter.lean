import Multimeter.Bus.Batched
import Multimeter.Bus.Bench
import Multimeter.Bus.Parked
import Multimeter.Bus.Scripted
import Multimeter.CommandLine.Basic
import Multimeter.CommandLine.Help
import Multimeter.CommandLine.Parser
import Multimeter.Daemon
import Multimeter.DeviceId
import Multimeter.Driver.Basic
import Multimeter.Driver.Operation
import Multimeter.Event
import Multimeter.Feed
import Multimeter.Files.Basic
import Multimeter.Files.Path
import Multimeter.Instrument
import Multimeter.Json.Basic
import Multimeter.Json.Codec
import Multimeter.Json.Lexer
import Multimeter.Json.Parser
import Multimeter.Json.Printer
import Multimeter.Limits
import Multimeter.Main
import Multimeter.Meter.Acquisition
import Multimeter.Meter.Basic
import Multimeter.Meter.Connection
import Multimeter.Meter.Transfers
import Multimeter.Notice
import Multimeter.Schedule
import Multimeter.Settings.Basic
import Multimeter.Settings.File
import Multimeter.Status
import Multimeter.Text.Blank
import Multimeter.Text.Decimal
import Multimeter.Text.Hex
import Multimeter.Text.Terminal
import Multimeter.Text.Unprintable
import Multimeter.Text.Utf8
import Multimeter.Time
import Multimeter.Usb.Call
import Multimeter.Usb.Error
import Multimeter.Usb.Source
import Multimeter.Usb.Transfer
import Multimeter.Worker
import Multimeter.Proofs.Advance
import Multimeter.Proofs.Connection
import Multimeter.Proofs.Act
import Multimeter.Proofs.Start
import Multimeter.Proofs.Registry
import Multimeter.Proofs.Sound
import Multimeter.Proofs.Session
import Multimeter.Proofs.Lifecycle
import Multimeter.Proofs.Feeds
import Multimeter.Proofs.FeedEnds
import Multimeter.Proofs.FeedGrammar
import Multimeter.Proofs.Slots
import Multimeter.Proofs.ScriptedSlots
import Multimeter.Proofs.Outstanding
import Multimeter.Proofs.Course
import Multimeter.Proofs.AcquisitionCourse
import Multimeter.Proofs.Stages
import Multimeter.Proofs.Handles
import Multimeter.Proofs.HandleProtocol
import Multimeter.Proofs.StopHandles
import Multimeter.Proofs.OneTransfer
import Multimeter.Proofs.Deliveries
import Multimeter.Proofs.Budget
import Multimeter.Proofs.SampleBudget
import Multimeter.Proofs.Replay
import Multimeter.Proofs.Seats
import Multimeter.Proofs.Identity
import Multimeter.Proofs.Reports
import Multimeter.Proofs.Ticks
import Multimeter.Proofs.Passages
import Multimeter.Proofs.Printers
import Multimeter.Proofs.Accounts
import Multimeter.Proofs.Counts
import Multimeter.Proofs.Stations
import Multimeter.Proofs.Posts
import Multimeter.Proofs.Watch
import Multimeter.Proofs.Rosters
import Multimeter.Proofs.Pairs
import Multimeter.Proofs.Twins
import Multimeter.Proofs.Answers
import Multimeter.Proofs.Abreast
import Multimeter.Proofs.ScriptedPorts
import Multimeter.Proofs.Afresh
import Multimeter.Proofs.Dealings
import Multimeter.Proofs.Confined
import Multimeter.Proofs.Shadows
import Multimeter.Proofs.Submissions
import Multimeter.Proofs.Endings
import Multimeter.Proofs.Departures
import Multimeter.Proofs.Sweeps
import Multimeter.Proofs.Undisturbed
import Multimeter.Proofs.Spellings
import Multimeter.Proofs.JsonTexts
import Multimeter.Proofs.Encodings
import Multimeter.Proofs.SettingsFile
import Multimeter.Proofs.RacingStops
import Multimeter.Proofs.Scans
import Multimeter.Proofs.Refusals
import Multimeter.Proofs.LimitsHistory
import Multimeter.Proofs.Mirrors
import Multimeter.Proofs.RefusedStart
import Multimeter.Proofs.Numerals
import Multimeter.Proofs.DeviceIds
import Multimeter.Proofs.Paths
import Multimeter.Proofs.Loading
import Multimeter.Proofs.SettingsMeaning
import Multimeter.Proofs.Closings
import Multimeter.Proofs.Scheduling
import Multimeter.Proofs.EffectiveLimits
import Multimeter.Proofs.Deadlines
import Multimeter.Proofs.Pacing
import Multimeter.Proofs.Underway
import Multimeter.Proofs.LastRound
import Multimeter.Proofs.ParkedSlot
import Multimeter.Proofs.ParkedFates
import Multimeter.Proofs.Waiting
