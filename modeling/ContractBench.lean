import ContractBench.Answer
import ContractBench.Answer.Broadcast
import ContractBench.Answer.Computation
import ContractBench.Answer.Listing
import ContractBench.Answer.Signature
import ContractBench.Answer.Transaction
import ContractBench.Bench
import ContractBench.Client
import ContractBench.Command
import ContractBench.Contract
import ContractBench.Daemon
import ContractBench.Daemon.Host
import ContractBench.Daemon.Script
import ContractBench.Deployment
import ContractBench.Disk
import ContractBench.Disk.Operation
import ContractBench.Disk.Path
import ContractBench.Execution
import ContractBench.Failure
import ContractBench.Json.Reader
import ContractBench.Json.Writer
import ContractBench.Launcher
import ContractBench.Log.Level
import ContractBench.Log.Throttle
import ContractBench.Message
import ContractBench.Number.Binary64
import ContractBench.Number.Numeral
import ContractBench.Number.Places
import ContractBench.Number.Shortest
import ContractBench.Registry
import ContractBench.Release
import ContractBench.Schema
import ContractBench.Schema.Issue
import ContractBench.Schema.Validate
import ContractBench.Settings
import ContractBench.Shell
import ContractBench.Shell.Catalog
import ContractBench.Shell.Command
import ContractBench.Shell.Digest
import ContractBench.Shell.Expansion
import ContractBench.Shell.Field
import ContractBench.Shell.Format
import ContractBench.Shell.Formula
import ContractBench.Shell.Grammar
import ContractBench.Shell.Launch
import ContractBench.Shell.Pattern
import ContractBench.Shell.Process
import ContractBench.Shell.Program
import ContractBench.Shell.Program.Calculation
import ContractBench.Shell.Program.Characters
import ContractBench.Shell.Program.Comparing
import ContractBench.Shell.Program.EditScript
import ContractBench.Shell.Program.Editing
import ContractBench.Shell.Program.Encoding
import ContractBench.Shell.Program.Excerpt
import ContractBench.Shell.Program.Files
import ContractBench.Shell.Program.Finding
import ContractBench.Shell.Program.Lines
import ContractBench.Shell.Program.Running
import ContractBench.Shell.Program.Searching
import ContractBench.Shell.Program.Sorting
import ContractBench.Shell.Regex
import ContractBench.Shell.Run
import ContractBench.Shell.Signal
import ContractBench.Shell.Source
import ContractBench.Shell.Step
import ContractBench.Shell.Stream
import ContractBench.Shell.Test
import ContractBench.Shell.Utility.Control
import ContractBench.Shell.Utility.Variables
import ContractBench.Text.Blank
import ContractBench.Text.Letter
import ContractBench.Text.Octets
import ContractBench.Text.Printable
import ContractBench.Text.Quoted
import ContractBench.Text.Utf8
import ContractBench.Toml.Moment
import ContractBench.Toml.Reader
import ContractBench.Toml.Scalar
import ContractBench.Toml.Table
import ContractBench.Tour.Counter
import ContractBench.Tour.Permit
import ContractBench.Value
import ContractBench.Value.Display
import ContractBench.Value.Plain
import ContractBench.Proofs.Bench
import ContractBench.Proofs.Retry
import ContractBench.Proofs.Client
import ContractBench.Proofs.Disk
import ContractBench.Proofs.Files
import ContractBench.Proofs.Utf8
import ContractBench.Proofs.Entry
import ContractBench.Proofs.Registry
import ContractBench.Proofs.Deployment
import ContractBench.Proofs.Session
import ContractBench.Proofs.Keeping
import ContractBench.Proofs.Ledger
import ContractBench.Proofs.Steps
import ContractBench.Proofs.Document
import ContractBench.Proofs.Message
import ContractBench.Proofs.Noise
import ContractBench.Proofs.Resolved
import ContractBench.Proofs.Oversized
import ContractBench.Proofs.Reports
import ContractBench.Proofs.SideBySide
import ContractBench.Proofs.Agreement
import ContractBench.Proofs.Scanning
import ContractBench.Proofs.Secrecy
import ContractBench.Proofs.Apart
import ContractBench.Proofs.Growth
import ContractBench.Proofs.Saving
import ContractBench.Proofs.Tolerance
import ContractBench.Proofs.Failing
import ContractBench.Proofs.Signing
import ContractBench.Proofs.Loading
import ContractBench.Proofs.Unsent
import ContractBench.Proofs.Unwritable
import ContractBench.Proofs.Grammatical
import ContractBench.Proofs.Loggers
import ContractBench.Proofs.Handling
import ContractBench.Proofs.Rounding
import ContractBench.Proofs.Throttling
import ContractBench.Proofs.Fields
import ContractBench.Proofs.Rewording
import ContractBench.Proofs.Respelling
import ContractBench.Proofs.Retention
import ContractBench.Proofs.Padding
import ContractBench.Proofs.Accepting
import ContractBench.Proofs.Deleting
import ContractBench.Proofs.Sharing
import ContractBench.Proofs.Announcing
import ContractBench.Proofs.Arguments
import ContractBench.Proofs.Levels
import ContractBench.Proofs.Tables
import ContractBench.Proofs.TableTexts
import ContractBench.Proofs.Releases
import ContractBench.Proofs.Storing
import ContractBench.Proofs.Listing
