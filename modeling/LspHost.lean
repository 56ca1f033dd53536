import LspHost.Act
import LspHost.Command
import LspHost.CommandLine.Arguments
import LspHost.CommandLine.Forms
import LspHost.CommandLine.Help
import LspHost.CommandLine.Report
import LspHost.CommandLine.Resolve
import LspHost.CommandLine.Serve
import LspHost.Config
import LspHost.Config.Setting
import LspHost.Config.Source
import LspHost.Environment
import LspHost.Environment.Detection
import LspHost.Environment.Query
import LspHost.Environment.Resolver
import LspHost.Environment.Search
import LspHost.Fault
import LspHost.Host
import LspHost.Interpreter
import LspHost.Journal
import LspHost.Json.Parser
import LspHost.Json.Printer
import LspHost.Machine
import LspHost.Machine.Errno
import LspHost.Machine.Files
import LspHost.Machine.Image
import LspHost.Machine.Octets
import LspHost.Machine.Resolution
import LspHost.Machine.Shell.Arithmetic
import LspHost.Machine.Shell.Builtin
import LspHost.Machine.Shell.Condition
import LspHost.Machine.Shell.Expansion
import LspHost.Machine.Shell.Format
import LspHost.Machine.Shell.Grammar
import LspHost.Machine.Shell.Pattern
import LspHost.Machine.Shell.Program
import LspHost.Machine.Shell.Redirection
import LspHost.Machine.Shell.Run
import LspHost.Machine.Shell.Script
import LspHost.Machine.Shell.State
import LspHost.Machine.Shell.Syntax
import LspHost.Machine.Shell.Token
import LspHost.Machine.Terminal
import LspHost.Main
import LspHost.Number.Binary64
import LspHost.Number.Shortest
import LspHost.Path
import LspHost.Progress
import LspHost.Progress.Relay
import LspHost.Proofs.Config.Content
import LspHost.Proofs.Config.Layers
import LspHost.Proofs.Config.Load
import LspHost.Proofs.Config.Marks
import LspHost.Proofs.Faults
import LspHost.Proofs.History
import LspHost.Proofs.Machine.Directory
import LspHost.Proofs.Outcome
import LspHost.Proofs.Resolver.Cache
import LspHost.Proofs.Resolver.Calls
import LspHost.Proofs.Resolver.Faults
import LspHost.Proofs.Resolver.Transparency
import LspHost.Proofs.Session.Calls
import LspHost.Proofs.Session.Documents
import LspHost.Proofs.StillWorld
import LspHost.Session
import LspHost.Session.Message
import LspHost.Settings.Nested
import LspHost.Settings.Snapshot
import LspHost.Text.Blank
import LspHost.Text.Cut
import LspHost.Text.Digits
import LspHost.Text.Filled
import LspHost.Text.Front
import LspHost.Text.Integer
import LspHost.Text.Lines
import LspHost.Text.Percent
import LspHost.Text.Printable
import LspHost.Text.Quoted
import LspHost.Text.Utf8
import LspHost.Text.Words
import LspHost.Toml.Basic
import LspHost.Toml.Document
import LspHost.Toml.Number
import LspHost.Toml.Text
import LspHost.Value
import LspHost.Value.Moment
import LspHost.Value.Text
import LspHost.Workspace
import LspHost.Proofs.Session.Plan
import LspHost.Proofs.Session.Start
import LspHost.Proofs.Session.Handshake
import LspHost.Proofs.Path.Uri
import LspHost.Proofs.Session.Teardown
import LspHost.Proofs.Session.Lifecycle
import LspHost.Proofs.Session.LiveDocuments
import LspHost.Proofs.Machine.Faults
import LspHost.Proofs.Settings.Nesting
import LspHost.Proofs.Settings.Sections
import LspHost.Proofs.Session.Configuration
import LspHost.Proofs.Session.Standing
import LspHost.Proofs.Session.Consistency
import LspHost.Proofs.Mirroring
import LspHost.Proofs.Resolver.Mirroring
import LspHost.Proofs.Session.Mirroring
import LspHost.Proofs.Session.Attended
import LspHost.Proofs.Session.Restart
import LspHost.Proofs.Config.Overlay
import LspHost.Proofs.Workspace.Documents
import LspHost.Proofs.Workspace.Opened
import LspHost.Proofs.Session.Workspace
import LspHost.Proofs.Session.Identity
import LspHost.Proofs.Progress.Notice
import LspHost.Proofs.Progress.Relay
import LspHost.Proofs.Session.Relaying
import LspHost.Proofs.Command
import LspHost.Proofs.Progress.Busy
import LspHost.Proofs.Resolver.Endings
import LspHost.Proofs.Config.PutAside
import LspHost.Proofs.Settings.Overlap
import LspHost.Proofs.Config.Obstacles
import LspHost.Proofs.Resolver.Precedence
import LspHost.Proofs.CommandLine.Agreement
import LspHost.Proofs.Search.Order
import LspHost.Proofs.Machine.Walking
import LspHost.Proofs.Search.Ancestors
import LspHost.Proofs.Json.Limits
import LspHost.Proofs.Interpreter
import LspHost.Proofs.Session.Contents
import LspHost.Proofs.Path.Inside
import LspHost.Proofs.Text.Quoting
import LspHost.Proofs.Environment.Layout
import LspHost.Proofs.Session.Spellings
import LspHost.Proofs.Session.Spawning
import LspHost.Proofs.Config.Command
import LspHost.Proofs.CommandLine.Routes
