import CallScript.Main
import CallScript.Proofs.Block.Fragments
import CallScript.Proofs.Block.Literals
import CallScript.Proofs.Config.RoundTrip
import CallScript.Proofs.Grammar.Edits
import CallScript.Proofs.Scan.Options
import CallScript.Proofs.Scan.Reference
import CallScript.Proofs.Scan.Strictness
import CallScript.Proofs.Scan.Tiling
import CallScript.Proofs.Session.FullSink
import CallScript.Proofs.Session.WriteLog
import CallScript.Proofs.Grammar.Entries
import CallScript.Proofs.Session.Frame
import CallScript.Proofs.Files.FailedSave
import CallScript.Proofs.Session.Identity
import CallScript.Proofs.CommandLine.Atomicity
import CallScript.Proofs.Vocabulary.Acceptance
import CallScript.Proofs.Block.Quotes
import CallScript.Proofs.Block.Delimiters
import CallScript.Proofs.Block.Division
import CallScript.Proofs.Block.Lines
import CallScript.Proofs.Block.Rejoining
import CallScript.Proofs.Lexer.Lexemes
import CallScript.Proofs.Scan.RuleOrder
import CallScript.Proofs.Grammar.Overrides
import CallScript.Proofs.Session.Comparisons
import CallScript.Proofs.Value.Coercion
import CallScript.Proofs.Session.NumberNames
import CallScript.Proofs.Session.ControlFlow
import CallScript.Proofs.Session.Bodies
import CallScript.Proofs.Text.Walk
import CallScript.Proofs.Scan.Progress
