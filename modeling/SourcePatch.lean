import SourcePatch.Text.Blank
import SourcePatch.Unicode.Property
import SourcePatch.Text.Utf8
import SourcePatch.Pattern.Parser
import SourcePatch.Pattern.Program
import SourcePatch.Pattern.Matching
import SourcePatch.Rule.QuantityStep
import SourcePatch.Hash.Xxh3
import SourcePatch.Edit.FileEdits
import SourcePatch.Patch.Patcher
import SourcePatch.Workspace.Guard
import SourcePatch.Decimal.Binary64
import SourcePatch.Toml.Parser
import SourcePatch.RuleFile.Load
import SourcePatch.Diff.Lines
import SourcePatch.CommandLine.Run
import SourcePatch.RustSyntax.File
import SourcePatch.Proofs.QuantityStep.Crew
import SourcePatch.Proofs.QuantityStep.Occurrences
import SourcePatch.Proofs.QuantityStep.FixedPoint
import SourcePatch.Proofs.CommandLine.Confinement
import SourcePatch.Proofs.CommandLine.Composition
import SourcePatch.Proofs.CommandLine.Forecast
import SourcePatch.Proofs.CommandLine.Expectation
import SourcePatch.Proofs.Workspace.Verdicts
import SourcePatch.Proofs.Workspace.Lifetime
import SourcePatch.Proofs.CommandLine.Plans
import SourcePatch.Proofs.Edit.Applying
import SourcePatch.Proofs.Edit.PushOrder
import SourcePatch.Proofs.Rule.Coherence
import SourcePatch.Proofs.QuantityStep.LineBreaks
import SourcePatch.Proofs.Rule.LineBreaks
import SourcePatch.Proofs.Rule.Rerun
import SourcePatch.Proofs.Edit.Characters
import SourcePatch.Proofs.RuleFile.Validation
import SourcePatch.Proofs.CommandLine.Differences
