import Assay.Analyzer.Basic
import Assay.Analyzer.CommandLine
import Assay.Analyzer.Kind
import Assay.Analyzer.Run
import Assay.Calendar.Form
import Assay.Calendar.Moment
import Assay.Calendar.Telling
import Assay.Calendar.Zone
import Assay.Campaign
import Assay.Corpus.Case
import Assay.Corpus.Defines
import Assay.Corpus.Folder
import Assay.Corpus.Layout
import Assay.Corpus.Triple
import Assay.Decimal.Binary64
import Assay.Decimal.Quantity
import Assay.Diagnostics
import Assay.Duration
import Assay.Failure
import Assay.Files.Entries
import Assay.Files.Fault
import Assay.Files.Mode
import Assay.Files.Tree
import Assay.Host.Activity
import Assay.Host.Basic
import Assay.Host.Programs
import Assay.Host.Request
import Assay.Host.Schedule
import Assay.Host.Signal
import Assay.Invocation
import Assay.Json.Basic
import Assay.Json.Fault
import Assay.Json.Numeral
import Assay.Json.Outline
import Assay.Json.Reader
import Assay.Json.Token
import Assay.Launcher
import Assay.Main
import Assay.Manual
import Assay.OrderedMap
import Assay.Path
import Assay.Proofs.Action
import Assay.Proofs.Batch
import Assay.Proofs.OrderedMap
import Assay.Proofs.Trial
import Assay.Proofs.Totals
import Assay.Proofs.Course
import Assay.Proofs.Accounts
import Assay.Proofs.Calls
import Assay.Proofs.Alike
import Assay.Report.Table
import Assay.Report.Totals
import Assay.Report.Writer
import Assay.Results
import Assay.Script.Assigning
import Assay.Script.Braces
import Assay.Script.Builtin.Arguments
import Assay.Script.Builtin.Basic
import Assay.Script.Builtin.Inquiry
import Assay.Script.Builtin.Lists
import Assay.Script.Builtin.Places
import Assay.Script.Builtin.Processes
import Assay.Script.Builtin.Signals
import Assay.Script.Builtin.Stack
import Assay.Script.Builtin.Variables
import Assay.Script.Engine
import Assay.Script.Evaluation
import Assay.Script.Expansion
import Assay.Script.Fields
import Assay.Script.Grammar
import Assay.Script.Jobs
import Assay.Script.Judging
import Assay.Script.Lookup
import Assay.Script.Parser
import Assay.Script.Pattern
import Assay.Script.Quoting
import Assay.Script.Redirection
import Assay.Script.Shell
import Assay.Script.Source
import Assay.Script.Start
import Assay.Script.Sum
import Assay.Script.Tokens
import Assay.Script.Words
import Assay.Script.Work
import Assay.Script.Written
import Assay.Session
import Assay.Settings.Basic
import Assay.Settings.Json
import Assay.SuiteRun
import Assay.Surroundings
import Assay.Text.Blank
import Assay.Text.Change
import Assay.Text.CharClass
import Assay.Text.Citation
import Assay.Text.Digest
import Assay.Text.Format
import Assay.Text.Hidden
import Assay.Text.Measure
import Assay.Text.Numeral
import Assay.Text.Octets
import Assay.Text.Regex
import Assay.Text.Trial
import Assay.Text.Trial.Reader
import Assay.Text.Version
import Assay.Utility.Basic
import Assay.Utility.Batches
import Assay.Utility.Blocks
import Assay.Utility.Calendar
import Assay.Utility.Collation
import Assay.Utility.Columns
import Assay.Utility.Commands
import Assay.Utility.Comparing.Bytes
import Assay.Utility.Comparing.Columns
import Assay.Utility.Comparing.Files
import Assay.Utility.Comparing.Lines
import Assay.Utility.Comparing.Groups
import Assay.Utility.Comparing.Merging
import Assay.Utility.Comparing.Start
import Assay.Utility.Copying
import Assay.Utility.Counting
import Assay.Utility.Digests
import Assay.Utility.Dump
import Assay.Utility.Edit.Command
import Assay.Utility.Edit.Edition
import Assay.Utility.Edit.Reader
import Assay.Utility.Edit.Run
import Assay.Utility.Edit.Start
import Assay.Utility.Ends
import Assay.Utility.Environment
import Assay.Utility.Escape
import Assay.Utility.Factors
import Assay.Utility.Grep.Run
import Assay.Utility.Grep.Search
import Assay.Utility.Joining
import Assay.Utility.Letters
import Assay.Utility.Listing
import Assay.Utility.Placing
import Assay.Utility.Moving
import Assay.Utility.Numbering
import Assay.Utility.OptionWords
import Assay.Utility.Ordering
import Assay.Utility.Plain
import Assay.Utility.Printf
import Assay.Utility.Radix
import Assay.Utility.Reading
import Assay.Utility.Reckoning
import Assay.Utility.Records.Grammar
import Assay.Utility.Records.Machine
import Assay.Utility.Records.Parser
import Assay.Utility.Records.Pattern
import Assay.Utility.Records.Run
import Assay.Utility.Records.Start
import Assay.Utility.Records.Tokens
import Assay.Utility.Records.Value
import Assay.Utility.Search.Query
import Assay.Utility.Search.Run
import Assay.Utility.Sequence
import Assay.Utility.Sorting
import Assay.Utility.Splitting
import Assay.Utility.Table
import Assay.Utility.Tabs
import Assay.Utility.Test
import Assay.Utility.Units
import Assay.Verdict
import Assay.Watch
import Assay.Proofs.Discovery
import Assay.Proofs.Identity
import Assay.Proofs.Text.Spaced
import Assay.Proofs.Summary.Basic
import Assay.Proofs.Summary.Compiler
import Assay.Proofs.Summary.Kernel
import Assay.Proofs.Tree
import Assay.Proofs.Inputs
import Assay.Proofs.Publishing
import Assay.Proofs.Selection
import Assay.Proofs.SuiteRuns
import Assay.Proofs.Json.Numeral
import Assay.Proofs.Json.Token
import Assay.Proofs.Json.Outline
import Assay.Proofs.Json.Reader
import Assay.Proofs.Settings
import Assay.Proofs.Table
import Assay.Proofs.AddedFlags
import Assay.Proofs.Invocations
import Assay.Proofs.Text.Order
import Assay.Proofs.Groups
import Assay.Proofs.Reports
import Assay.Proofs.FlagGroups
import Assay.Proofs.TableText
import Assay.Proofs.Union
import Assay.Proofs.Forwarding
import Assay.Proofs.Overlay
import Assay.Proofs.Overriding
import Assay.Proofs.ReportFiles
import Assay.Proofs.Times
import Assay.Proofs.Waiting
