import Backlog.Cli.LogFilter
import Backlog.Cli.Options
import Backlog.Cli.Session
import Backlog.Config.File
import Backlog.Config.Settings
import Backlog.Config.Text
import Backlog.Daemon
import Backlog.Disk
import Backlog.Error
import Backlog.History.Filter
import Backlog.History.Line
import Backlog.History.Registry
import Backlog.History.Replay
import Backlog.History.Store
import Backlog.History.TargetIndex
import Backlog.History.TargetLog
import Backlog.Log
import Backlog.Main
import Backlog.Proofs.Config.Entries
import Backlog.Proofs.Config.Saved
import Backlog.Proofs.Daemon.Lifecycle
import Backlog.Proofs.Daemon.Rota
import Backlog.Proofs.Daemon.Service
import Backlog.Proofs.Daemon.Upkeep
import Backlog.Proofs.History.Archive
import Backlog.Proofs.History.Cache
import Backlog.Proofs.History.Chains
import Backlog.Proofs.History.Directory
import Backlog.Proofs.History.Effects
import Backlog.Proofs.History.Index
import Backlog.Proofs.History.Lookup
import Backlog.Proofs.History.Provenance
import Backlog.Proofs.History.Retention
import Backlog.Proofs.History.Selection
import Backlog.Proofs.History.Separation
import Backlog.Proofs.History.Sweep
import Backlog.Proofs.History.Wire
import Backlog.Proofs.Schedule.Apart
import Backlog.Proofs.Schedule.Counts
import Backlog.Proofs.Schedule.Course
import Backlog.Proofs.Schedule.Fate
import Backlog.Proofs.Schedule.Granting
import Backlog.Proofs.Schedule.Handles
import Backlog.Proofs.Schedule.Independence
import Backlog.Proofs.Schedule.Leaving
import Backlog.Proofs.Schedule.Ownership
import Backlog.Proofs.Schedule.Pass
import Backlog.Proofs.Schedule.Scene
import Backlog.Proofs.Schedule.Spacing
import Backlog.Proofs.Schedule.Statuses
import Backlog.Proofs.Text.Folding
import Backlog.Proofs.Text.Numerals
import Backlog.Proofs.Time.Calendar
import Backlog.Proofs.Time.Order
import Backlog.Proofs.Time.Stamps
import Backlog.Proofs.Toml.Strings
import Backlog.Proofs.Toml.Values
import Backlog.Schedule.Describe
import Backlog.Schedule.Scheduler
import Backlog.Schedule.Script
import Backlog.Schedule.Task
import Backlog.Schedule.Tick
import Backlog.Tag
import Backlog.Text.Blank
import Backlog.Text.CaseFold
import Backlog.Text.Numeral
import Backlog.Text.Quoted
import Backlog.Text.Terminal
import Backlog.Text.Visible
import Backlog.Time.Calendar
import Backlog.Time.Clock
import Backlog.Time.Fields
import Backlog.Time.Instant
import Backlog.Time.Rfc3339
import Backlog.Time.ServerTime
import Backlog.Time.Stamp
import Backlog.Toml.Document
import Backlog.Toml.Lexeme
import Backlog.Toml.Number
import Backlog.Toml.Value
import Backlog.Toml.Writer
import Backlog.Proofs.Time.Internet
import Backlog.Proofs.History.Window
import Backlog.Proofs.Schedule.Intervals
import Backlog.Proofs.Schedule.Cadence
import Backlog.Proofs.Keyed
import Backlog.Proofs.History.Arrival
import Backlog.Proofs.History.Registration
import Backlog.Proofs.Schedule.Followers
