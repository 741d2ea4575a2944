import CallIndex.Main
import CallIndex.Proofs.Answers
import CallIndex.Proofs.ArgumentLists
import CallIndex.Proofs.BracketMatching
import CallIndex.Proofs.CallAttribution
import CallIndex.Proofs.CallPlaces
import CallIndex.Proofs.CodeStructure
import CallIndex.Proofs.Concatenation
import CallIndex.Proofs.Contributions
import CallIndex.Proofs.DeclaredNames
import CallIndex.Proofs.EntryKeys
import CallIndex.Proofs.HiddenText
import CallIndex.Proofs.IncrementalIndexing
import CallIndex.Proofs.IndentationBlocks
import CallIndex.Proofs.Lexing
import CallIndex.Proofs.LineBoundaries
import CallIndex.Proofs.LiteralBodies
import CallIndex.Proofs.MaskShape
import CallIndex.Proofs.NestedFunctions
import CallIndex.Proofs.ParameterNames
import CallIndex.Proofs.PlainCalls
import CallIndex.Proofs.RepairedBytes
import CallIndex.Proofs.SignatureChecks
import CallIndex.Proofs.StoppingPlaces
import CallIndex.Proofs.SummaryShape
import CallIndex.Proofs.TargetRules
import CallIndex.Proofs.ToolCalls
import CallIndex.Proofs.TraceCalls
import CallIndex.Proofs.TraceSaturation
import CallIndex.Proofs.WorkspaceRuns
import CallIndex.Tool.Call
import CallIndex.Tool.Catalog
import CallIndex.Proofs.SignatureTargets
import CallIndex.Proofs.Paths
import CallIndex.Proofs.IndexRuns
import CallIndex.Proofs.RelativeImports
import CallIndex.Proofs.DirectoryAccounts
import CallIndex.Proofs.LexemeRows
import CallIndex.Proofs.BraceStreams
import CallIndex.Proofs.TraceTrees
import CallIndex.Proofs.ResolvedFlags
import CallIndex.Proofs.ShownArguments
import CallIndex.Proofs.Relocation
import CallIndex.Proofs.TopLevelParts
