import TripleSlash.Builder
import TripleSlash.CommandLine
import TripleSlash.Compiler.Scripted
import TripleSlash.Main
import TripleSlash.Proofs.Anchored
import TripleSlash.Proofs.AnchoredScan
import TripleSlash.Proofs.Descent
import TripleSlash.Proofs.Grammar
import TripleSlash.Proofs.Lines
import TripleSlash.Proofs.NormalForm
import TripleSlash.Proofs.Quoting
import TripleSlash.Proofs.Reachability
import TripleSlash.Proofs.Tracking
import TripleSlash.Proofs.ProjectBuilds
import TripleSlash.Proofs.AnchoredLines
import TripleSlash.Proofs.Json.Reading
import TripleSlash.Proofs.Manifests
import TripleSlash.Proofs.Recognition
import TripleSlash.Proofs.Passes
import TripleSlash.Proofs.MoreFiles
import TripleSlash.Proofs.Reports
import TripleSlash.Proofs.SharedDependencies
import TripleSlash.Proofs.Following
import TripleSlash.Proofs.FoldedPaths
import TripleSlash.Proofs.EntryTexts
import TripleSlash.Proofs.Scanning
import TripleSlash.Proofs.AnchoredBytes
import TripleSlash.Proofs.Writing
import TripleSlash.Proofs.ScratchDirectories
import TripleSlash.Proofs.Commands
import TripleSlash.Proofs.FailureOrigins
import TripleSlash.Proofs.Turns
import TripleSlash.Proofs.CanonicalPaths
import TripleSlash.Proofs.ProjectInputs
import TripleSlash.Proofs.GuardedQuotes
import TripleSlash.Proofs.AssetKinds
import TripleSlash.Proofs.Decoding
import TripleSlash.Proofs.ChildReports
import TripleSlash.Proofs.TextualParents
import TripleSlash.Proofs.PlainTrees
import TripleSlash.Proofs.LocalPrograms
import TripleSlash.Proofs.LocalCompilers
