import Kiss.CommandLine.FileTree
import Kiss.Main
import Kiss.Proofs.Execution.Dependence
import Kiss.Proofs.Execution.Failure
import Kiss.Proofs.Execution.Frame
import Kiss.Proofs.Execution.Normal
import Kiss.Proofs.Execution.Strictness
import Kiss.Proofs.Execution.Truncation
import Kiss.Proofs.Calls.Closing
import Kiss.Proofs.Calls.Leaking
import Kiss.Proofs.Calls.Separation
import Kiss.Proofs.Depth.Levels
import Kiss.Proofs.Source.Concatenation
import Kiss.Proofs.Source.Rendering
import Kiss.Proofs.Execution.Slots
import Kiss.Proofs.CommandLine.Stages
import Kiss.Proofs.Grammar.ExprBeginning
import Kiss.Proofs.Grammar.StmtBeginning
import Kiss.Proofs.Grammar.ExprLockstep
import Kiss.Proofs.Grammar.StmtLockstep
import Kiss.Proofs.Grammar.Layout
import Kiss.Proofs.Number.Digits
import Kiss.Proofs.Number.Interval
import Kiss.Proofs.Number.Plain
import Kiss.Proofs.Source.ExprText
import Kiss.Proofs.Source.StmtText
import Kiss.Proofs.Source.Unambiguity
import Kiss.Proofs.Store.History
import Kiss.Proofs.Lexical.Listing
import Kiss.Proofs.Lexical.Progress
import Kiss.Proofs.Index.Levels
import Kiss.Proofs.Source.Literals
import Kiss.Proofs.Source.Placement
