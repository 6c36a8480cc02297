import SourceMatch.Address
import SourceMatch.Bytecode
import SourceMatch.CommandLine.Arguments
import SourceMatch.CommandLine.CheckCommand
import SourceMatch.CommandLine.Command
import SourceMatch.CommandLine.Parameter
import SourceMatch.CommandLine.Run
import SourceMatch.CommandLine.SessionCommand
import SourceMatch.CommandLine.Upload
import SourceMatch.CommandLine.VerifyCommand
import SourceMatch.CommandLine.World
import SourceMatch.Compiler.Fetch
import SourceMatch.Compiler.Index
import SourceMatch.Compiler.Input
import SourceMatch.Compiler.Output
import SourceMatch.Compiler.Service
import SourceMatch.Disk.Basic
import SourceMatch.Disk.Visit
import SourceMatch.Http.Cookie
import SourceMatch.Http.Exchange
import SourceMatch.Http.Failure
import SourceMatch.Import.Basic
import SourceMatch.Import.Resolver
import SourceMatch.Import.Statement
import SourceMatch.Json.Basic
import SourceMatch.Json.Binary64
import SourceMatch.Json.Decoder
import SourceMatch.Json.Document
import SourceMatch.Json.Printer
import SourceMatch.Json.Reader
import SourceMatch.Main
import SourceMatch.Path
import SourceMatch.Registry
import SourceMatch.Server.Client
import SourceMatch.Server.Model
import SourceMatch.Server.Reply
import SourceMatch.Session.Basic
import SourceMatch.Session.Live
import SourceMatch.Session.Remote
import SourceMatch.Session.Run
import SourceMatch.Session.Stateless
import SourceMatch.Text.Blank
import SourceMatch.Text.Dict
import SourceMatch.Text.Scan
import SourceMatch.Text.Word
import SourceMatch.Timestamp
import SourceMatch.Tree.Basic
import SourceMatch.Tree.Load
import SourceMatch.Unicode.CombiningClass
import SourceMatch.Unicode.Composition
import SourceMatch.Unicode.Direction
import SourceMatch.Unicode.Joining
import SourceMatch.Unicode.Mapping
import SourceMatch.Unicode.Mapping.Table
import SourceMatch.Unicode.Mark
import SourceMatch.Unicode.Ranges
import SourceMatch.Unicode.Run
import SourceMatch.Url.Basic
import SourceMatch.Url.Domain
import SourceMatch.Url.Host
import SourceMatch.Url.Parser
import SourceMatch.Url.Percent
import SourceMatch.Url.Punycode
import SourceMatch.Url.Route
import SourceMatch.Version.Basic
import SourceMatch.Version.Pragma
import SourceMatch.Version.Range
import SourceMatch.Version.Requirement
import SourceMatch.Workflow.Basic
import SourceMatch.Workflow.Run
import SourceMatch.Workflow.Step
import SourceMatch.Proofs.CommandLine.Verify.Course
import SourceMatch.Proofs.CommandLine.Verify.Imports
import SourceMatch.Proofs.CommandLine.Verify.Outcome
import SourceMatch.Proofs.Text.Cut
import SourceMatch.Proofs.Tree.Filling
import SourceMatch.Proofs.Json.Decoding
import SourceMatch.Proofs.Compiler.Output
import SourceMatch.Proofs.Compiler.Match
import SourceMatch.Proofs.Compiler.Input
import SourceMatch.Proofs.Import.Resolver
import SourceMatch.Proofs.Workflow.Transition
import SourceMatch.Proofs.Workflow.Waiting
import SourceMatch.Proofs.Workflow.Moves
import SourceMatch.Proofs.Workflow.Inputs
import SourceMatch.Proofs.Workflow.Closure
import SourceMatch.Proofs.Workflow.Provenance
import SourceMatch.Proofs.Workflow.Busy
import SourceMatch.Proofs.Workflow.Registration
import SourceMatch.Proofs.Rounds
import SourceMatch.Proofs.Session.Remote.Transition
import SourceMatch.Proofs.Session.Remote.Journal
import SourceMatch.Proofs.Session.Traffic
import SourceMatch.Proofs.Session.Remote.Turns
import SourceMatch.Proofs.Session.Remote.Upload
import SourceMatch.Proofs.Session.Stateless.Transition
import SourceMatch.Proofs.Session.Stateless.Turns
import SourceMatch.Proofs.Session.Stateless.Answers
import SourceMatch.Proofs.Session.Turns
import SourceMatch.Proofs.Version.Order
import SourceMatch.Proofs.Version.Text
import SourceMatch.Proofs.Version.Requirement
import SourceMatch.Proofs.Version.Spelling
import SourceMatch.Proofs.Version.Range
import SourceMatch.Proofs.Compiler.Resolution
import SourceMatch.Proofs.Workflow.Paths
import SourceMatch.Proofs.Workflow.Code
import SourceMatch.Proofs.Server.Talk
import SourceMatch.Proofs.Session.Live
import SourceMatch.Proofs.CommandLine.Calls
import SourceMatch.Proofs.Json.Scalars
import SourceMatch.Proofs.Json.Printed
import SourceMatch.Proofs.Timestamp
import SourceMatch.Proofs.Registry.Records
import SourceMatch.Proofs.Registry.Calls
import SourceMatch.Proofs.Import.Passes
import SourceMatch.Proofs.Workflow.Predicates
import SourceMatch.Proofs.Workflow.Supplies
import SourceMatch.Proofs.Path.Order
import SourceMatch.Proofs.Path.Parts
import SourceMatch.Proofs.Tree.Lookup
import SourceMatch.Proofs.Import.Statement
import SourceMatch.Proofs.Disk.Reach
import SourceMatch.Proofs.Disk.Visit
import SourceMatch.Proofs.Tree.Loading
import SourceMatch.Proofs.CommandLine.Verify.Sources
import SourceMatch.Proofs.Bytecode
import SourceMatch.Proofs.Session.Remote.Resolved
import SourceMatch.Proofs.Disk.Faultless
import SourceMatch.Proofs.CommandLine.Upload
import SourceMatch.Proofs.Json.Fields
import SourceMatch.Proofs.Wire
import SourceMatch.Proofs.Registry.Newest
import SourceMatch.Proofs.Version.Pragma
import SourceMatch.Proofs.Version.Scan
import SourceMatch.Proofs.Version.Comparators
