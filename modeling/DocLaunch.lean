import DocLaunch.CommandLine.Arguments
import DocLaunch.CommandLine.Commands
import DocLaunch.CommandLine.Log
import DocLaunch.CommandLine.Program
import DocLaunch.Fault.Basic
import DocLaunch.Fault.System
import DocLaunch.FileSystem.Access
import DocLaunch.FileSystem.Basic
import DocLaunch.Json.Basic
import DocLaunch.Json.Reader
import DocLaunch.Launch.Basic
import DocLaunch.Launch.Builder
import DocLaunch.Machine.Basic
import DocLaunch.Machine.Bytes
import DocLaunch.Machine.Child
import DocLaunch.Machine.Program
import DocLaunch.Machine.Signal
import DocLaunch.Main
import DocLaunch.Number.Binary64
import DocLaunch.Number.Formatted
import DocLaunch.Path.Basic
import DocLaunch.Process.Basic
import DocLaunch.Project.Root
import DocLaunch.Proofs.CommandLine.Check
import DocLaunch.Proofs.CommandLine.Display
import DocLaunch.Proofs.CommandLine.Exit
import DocLaunch.Proofs.CommandLine.Forwarding
import DocLaunch.Proofs.CommandLine.Initialization
import DocLaunch.Proofs.CommandLine.Logging
import DocLaunch.Proofs.CommandLine.Preparation
import DocLaunch.Proofs.CommandLine.Run
import DocLaunch.Proofs.FileSystem.Growth
import DocLaunch.Proofs.FileSystem.Leads
import DocLaunch.Proofs.FileSystem.Lexical
import DocLaunch.Proofs.FileSystem.Tree
import DocLaunch.Proofs.FileSystem.Writing
import DocLaunch.Proofs.Json.Printable
import DocLaunch.Proofs.Json.Scanning
import DocLaunch.Proofs.Json.Spelling
import DocLaunch.Proofs.Launch.Operands
import DocLaunch.Proofs.Launch.Plan
import DocLaunch.Proofs.Launch.Precedence
import DocLaunch.Proofs.Launch.Request
import DocLaunch.Proofs.Launch.SiteText
import DocLaunch.Proofs.Launch.Steps
import DocLaunch.Proofs.Path.Ancestors
import DocLaunch.Proofs.Path.Below
import DocLaunch.Proofs.Path.Joining
import DocLaunch.Proofs.Path.NormalForm
import DocLaunch.Proofs.Path.Normalization
import DocLaunch.Proofs.Path.Segments
import DocLaunch.Proofs.Process.Status
import DocLaunch.Proofs.Process.Word
import DocLaunch.Proofs.Project.Resolution
import DocLaunch.Proofs.Project.Root
import DocLaunch.Proofs.Settings.Containment
import DocLaunch.Proofs.Settings.Creation
import DocLaunch.Proofs.Settings.Declaration
import DocLaunch.Proofs.Settings.File
import DocLaunch.Proofs.Settings.Json
import DocLaunch.Proofs.Settings.Mismatch
import DocLaunch.Proofs.Settings.Overlay
import DocLaunch.Proofs.Settings.Parts
import DocLaunch.Proofs.Settings.Reload
import DocLaunch.Proofs.Settings.Rules
import DocLaunch.Proofs.Settings.Template
import DocLaunch.Proofs.StringTable
import DocLaunch.Proofs.Text.Digits
import DocLaunch.Proofs.Toml.Beginning
import DocLaunch.Proofs.Toml.Groups
import DocLaunch.Proofs.Toml.Keys
import DocLaunch.Proofs.Toml.Lines
import DocLaunch.Proofs.Toml.Marks
import DocLaunch.Proofs.Toml.Order
import DocLaunch.Proofs.Toml.Progress
import DocLaunch.Proofs.Toml.Quoting
import DocLaunch.Proofs.Toml.Reading
import DocLaunch.Proofs.Toml.Steps
import DocLaunch.Proofs.Toml.Told
import DocLaunch.Proofs.World.Activity
import DocLaunch.Regex.Basic
import DocLaunch.Regex.Reader
import DocLaunch.Settings.Basic
import DocLaunch.Settings.Decode
import DocLaunch.Settings.Field
import DocLaunch.Settings.File
import DocLaunch.Settings.Json
import DocLaunch.Settings.Rules
import DocLaunch.Settings.Show
import DocLaunch.Shell.Arithmetic
import DocLaunch.Shell.Builtin
import DocLaunch.Shell.Execution
import DocLaunch.Shell.Expansion
import DocLaunch.Shell.Fields
import DocLaunch.Shell.Pattern
import DocLaunch.Shell.Reader
import DocLaunch.Shell.Redirection
import DocLaunch.Shell.Script
import DocLaunch.Shell.Session
import DocLaunch.Shell.Source
import DocLaunch.Shell.State
import DocLaunch.StringTable
import DocLaunch.Text.Basic
import DocLaunch.Text.Letter
import DocLaunch.Text.Quoted
import DocLaunch.Toml.Document
import DocLaunch.Toml.Moment
import DocLaunch.Toml.Numeral
import DocLaunch.Toml.Printer
import DocLaunch.Toml.Text
import DocLaunch.Toml.Value
import DocLaunch.Tool.Basic
import DocLaunch.Tool.Columns
import DocLaunch.Tool.Condition
import DocLaunch.Tool.Editor
import DocLaunch.Tool.Files
import DocLaunch.Tool.Format
import DocLaunch.Tool.Search
import DocLaunch.Tool.Starting
import DocLaunch.Tool.Stream
import DocLaunch.Tool.Table
import DocLaunch.Tool.Words
import DocLaunch.World.Activity
import DocLaunch.World.Event
