import FixGrader.Main
import FixGrader.Proofs.Attempt.Lifecycle
import FixGrader.Proofs.Audit.Unusable
import FixGrader.Proofs.Challenge.Submitted
import FixGrader.Proofs.CommandLine.ExitStatus
import FixGrader.Proofs.Lint.Completion
import FixGrader.Proofs.Lint.FileArguments
import FixGrader.Proofs.Lint.Findings
import FixGrader.Proofs.Lint.PackageName
import FixGrader.Proofs.Lint.Refusal
import FixGrader.Proofs.Validation.Abort
import FixGrader.Proofs.Validation.Account
import FixGrader.Proofs.Validation.Calls
import FixGrader.Proofs.Validation.Completeness
import FixGrader.Proofs.Validation.Composition
import FixGrader.Proofs.Validation.Confinement
import FixGrader.Proofs.Validation.Improvement
import FixGrader.Proofs.Validation.IssueOrder
import FixGrader.Proofs.Validation.Marks
import FixGrader.Proofs.Validation.Observed
import FixGrader.Proofs.Validation.Order
import FixGrader.Proofs.Validation.ReadBack
import FixGrader.Proofs.Validation.Verdict
import FixGrader.Proofs.Rules.Extension
import FixGrader.Proofs.Rules.Families
import FixGrader.Proofs.Rules.Joints
import FixGrader.Proofs.Rules.Layering
import FixGrader.Proofs.Rules.Listing
import FixGrader.Proofs.Rules.Ways
import FixGrader.Proofs.Session.History
import FixGrader.Proofs.Stage.Assignments
import FixGrader.Proofs.Stage.Evidence
import FixGrader.Proofs.Tool.Supervision
import FixGrader.Proofs.Workspace.Root
import FixGrader.Proofs.Workspace.SharedPrefix
