import CompilerFlags.Data.Json.Reader
import CompilerFlags.Main
import CompilerFlags.Proofs.Bucket.Parsing
import CompilerFlags.Proofs.Capability.Dialects
import CompilerFlags.Proofs.Capability.Reloading
import CompilerFlags.Proofs.Search.Commit
import CompilerFlags.Proofs.Capability.Growth
import CompilerFlags.Proofs.Capability.Slice
import CompilerFlags.Proofs.Capability.Independence
import CompilerFlags.Proofs.Store.Restoring
import CompilerFlags.Proofs.Search.Fixed
import CompilerFlags.Proofs.Search.Repetition
import CompilerFlags.Proofs.Search.TargetOrder
import CompilerFlags.Proofs.Capability.Adjustment
import CompilerFlags.Proofs.Capability.Errors
import CompilerFlags.Proofs.Capability.Reporting
import CompilerFlags.Proofs.Capability.Unavailable
import CompilerFlags.Proofs.Capability.Runs
import CompilerFlags.Proofs.CommandLine.Configure
import CompilerFlags.Proofs.Capability.Override
import CompilerFlags.Proofs.Octets
import CompilerFlags.Proofs.OrderedSet
import CompilerFlags.Proofs.Store.Gathering
import CompilerFlags.Proofs.Store.Histories
import CompilerFlags.Proofs.Toml.Names
import CompilerFlags.Proofs.Store.Loading
import CompilerFlags.Proofs.Capability.Escalation
import CompilerFlags.Proofs.Capability.Entries
import CompilerFlags.Proofs.Toolchain.Detection
import CompilerFlags.Proofs.CommandLine.Showing
import CompilerFlags.Proofs.Language
import CompilerFlags.Proofs.Platform
import CompilerFlags.Proofs.Triple
import CompilerFlags.Proofs.CommandLine.Saving
import CompilerFlags.Proofs.Console
import CompilerFlags.Proofs.Settings
import CompilerFlags.Proofs.Toolchain.Trials
import CompilerFlags.Proofs.Arguments
