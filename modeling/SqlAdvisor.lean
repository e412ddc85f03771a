import SqlAdvisor.Main
import SqlAdvisor.Proofs.Traversal.Nesting
import SqlAdvisor.Proofs.Usage.Extraction
import SqlAdvisor.Proofs.Run.Explaining
import SqlAdvisor.Proofs.Run.DriverFailure
import SqlAdvisor.Proofs.Analysis.Regularity
import SqlAdvisor.Proofs.Analysis.Totality
import SqlAdvisor.Proofs.Explain.Estimate
import SqlAdvisor.Proofs.Explain.Report
import SqlAdvisor.Proofs.Run.Answer
import SqlAdvisor.Proofs.Explain.Ledger
import SqlAdvisor.Proofs.Statement.Query
import SqlAdvisor.Proofs.Usage.Scope
import SqlAdvisor.Proofs.Report.Sections
import SqlAdvisor.Proofs.Report.Flags
import SqlAdvisor.Proofs.Report.Lines
import SqlAdvisor.Proofs.Report.Page
import SqlAdvisor.Proofs.Hint.Completeness
import SqlAdvisor.Proofs.Usage.Coverage
import SqlAdvisor.Proofs.Run.Suggestions
import SqlAdvisor.Proofs.Run.Outcome
import SqlAdvisor.Proofs.Explain.Plan
import SqlAdvisor.Proofs.Hint.BaseColumns
import SqlAdvisor.Proofs.Hint.Alternatives
import SqlAdvisor.Proofs.Hint.Splits
import SqlAdvisor.Proofs.Explain.PlanNotes
import SqlAdvisor.Proofs.Explain.Narrative
import SqlAdvisor.Proofs.Statistics.Windows
import SqlAdvisor.Proofs.Hint.Single
import SqlAdvisor.Proofs.Usage.Aliases
import SqlAdvisor.Proofs.Usage.SetOperation
import SqlAdvisor.Proofs.Hint.Wildcards
import SqlAdvisor.Proofs.Explain.Reasons
import SqlAdvisor.Proofs.Usage.Schema
import SqlAdvisor.Proofs.Config.Refusals
import SqlAdvisor.Proofs.Explain.Spelling
