import ServiceClient.Disk
import ServiceClient.Logging.Setup
import ServiceClient.Main
import ServiceClient.Proofs.Generation.Isolation
import ServiceClient.Proofs.Generation.Marking
import ServiceClient.Proofs.Generation.Pruning
import ServiceClient.Proofs.Generation.Reordering
import ServiceClient.Proofs.HostType.RoundTrip
import ServiceClient.Proofs.Path
import ServiceClient.Proofs.Settings.Fields
import ServiceClient.Proofs.Settings.Precedence
import ServiceClient.Proofs.Generation.Policies
import ServiceClient.Proofs.Naming
import ServiceClient.Proofs.Generation.Shadowing
import ServiceClient.Proofs.Generation.Members
import ServiceClient.Proofs.Generation.Rerun
import ServiceClient.Proofs.Generation.Imports
import ServiceClient.Proofs.Snapshot.Spelling
import ServiceClient.Proofs.CommandLine.Loading
import ServiceClient.Proofs.TypeScript.Blame
import ServiceClient.Proofs.TypeScript.ResultMapping
import ServiceClient.Proofs.TypeScript.Expression
import ServiceClient.Proofs.TypeScript.Translation
import ServiceClient.Proofs.CommandLine.DryRun
import ServiceClient.Proofs.Disk.Atomic
import ServiceClient.Proofs.Generation.Verbs
import ServiceClient.Proofs.Text.Split
import ServiceClient.Proofs.Generation.Parameters
import ServiceClient.Proofs.Url.Dates
import ServiceClient.Proofs.Generation.Unqualified
import ServiceClient.Proofs.Generation.Collisions
import ServiceClient.Proofs.Generation.Mentions
import ServiceClient.Proofs.Naming.CamelCase
import ServiceClient.Proofs.Generation.Identifiers
import ServiceClient.Proofs.Url.BasePath
import ServiceClient.Proofs.TypeScript.Operands
import ServiceClient.Proofs.Logging.Override
import ServiceClient.Proofs.DataService.Preamble
import ServiceClient.Proofs.Generation.Literals
import ServiceClient.Proofs.HostType.Tokenizing
import ServiceClient.Proofs.Snapshot.Marking
import ServiceClient.Proofs.Verb
