import DocQuery.Json.Reader
import DocQuery.Naming
import DocQuery.Value.Arithmetic
import DocQuery.Value.Collation
import DocQuery.Expression.Builder
import DocQuery.Error
import DocQuery.Pattern.Text
import DocQuery.Expression.Folding
import DocQuery.Expression.Normal
import DocQuery.Plan.Codec
import DocQuery.Plan.Optimization
import DocQuery.Request.Basic
import DocQuery.Request.Selector
import DocQuery.Request.Draft
import DocQuery.DocumentOrder
import DocQuery.Event
import DocQuery.Compilation
import DocQuery.Store.Selector
import DocQuery.Client
import DocQuery.CommandLine.Commands
import DocQuery.Main
import DocQuery.Proofs.AbsentSizes
import DocQuery.Proofs.AcceptedClauses
import DocQuery.Proofs.AcceptedPlans
import DocQuery.Proofs.AcceptedRequests
import DocQuery.Proofs.BookmarkPages
import DocQuery.Proofs.CanonicalSelectors
import DocQuery.Proofs.CollationOrder
import DocQuery.Proofs.Comparisons
import DocQuery.Proofs.CompilationFailures
import DocQuery.Proofs.CompositeExpansion
import DocQuery.Proofs.DiscriminatorIsolation
import DocQuery.Proofs.DividedPlans
import DocQuery.Proofs.DocumentTrees
import DocQuery.Proofs.DocumentValues
import DocQuery.Proofs.DraftAnswers
import DocQuery.Proofs.DraftContents
import DocQuery.Proofs.DraftRows
import DocQuery.Proofs.EarlyProjections
import DocQuery.Proofs.ElementPresence
import DocQuery.Proofs.EmittedClauses
import DocQuery.Proofs.ExactArithmetic
import DocQuery.Proofs.ExecutionRows
import DocQuery.Proofs.ExecutionStates
import DocQuery.Proofs.ExpressionParts
import DocQuery.Proofs.ExtremeValues
import DocQuery.Proofs.Failures
import DocQuery.Proofs.FalseFilters
import DocQuery.Proofs.FilterRewriting
import DocQuery.Proofs.FilteredPlans
import DocQuery.Proofs.FlatClauses
import DocQuery.Proofs.FoldedExpressions
import DocQuery.Proofs.FoldedValues
import DocQuery.Proofs.IntegerSums
import DocQuery.Proofs.KeptPaths
import DocQuery.Proofs.KeptPromises
import DocQuery.Proofs.LastMatches
import DocQuery.Proofs.LeafAgreement
import DocQuery.Proofs.LeastValue
import DocQuery.Proofs.LinearCollation
import DocQuery.Proofs.LosslessValues
import DocQuery.Proofs.MixedNumbers
import DocQuery.Proofs.NegatedPredicates
import DocQuery.Proofs.Nominations
import DocQuery.Proofs.OpposedPredicates
import DocQuery.Proofs.OptimizedRows
import DocQuery.Proofs.OptimizerPasses
import DocQuery.Proofs.Outcomes
import DocQuery.Proofs.OutputShapes
import DocQuery.Proofs.PageComposition
import DocQuery.Proofs.PathTexts
import DocQuery.Proofs.PortableFolding
import DocQuery.Proofs.PortablePredicates
import DocQuery.Proofs.PredicateTests
import DocQuery.Proofs.ProjectedDocuments
import DocQuery.Proofs.ReadFields
import DocQuery.Proofs.RemainderTests
import DocQuery.Proofs.RepeatedSorting
import DocQuery.Proofs.RequestKeys
import DocQuery.Proofs.RequestPreservation
import DocQuery.Proofs.RequestShapes
import DocQuery.Proofs.RequestedDocuments
import DocQuery.Proofs.RoundedNumbers
import DocQuery.Proofs.RunningTotals
import DocQuery.Proofs.SelectorAgreement
import DocQuery.Proofs.SelectorMeaning
import DocQuery.Proofs.ServerFailures
import DocQuery.Proofs.SettledFolding
import DocQuery.Proofs.SettledPlans
import DocQuery.Proofs.SingleRequests
import DocQuery.Proofs.SplitExecution
import DocQuery.Proofs.StableSorting
import DocQuery.Proofs.StandardCompilation
import DocQuery.Proofs.StepFailures
import DocQuery.Proofs.StepOrder
import DocQuery.Proofs.StepsAfterResults
import DocQuery.Proofs.StoreHistory
import DocQuery.Proofs.StoredExpressions
import DocQuery.Proofs.StoredPlans
import DocQuery.Proofs.TranslatablePredicates
import DocQuery.Proofs.UniversalAnswers
import DocQuery.Proofs.WireNames
import DocQuery.Proofs.WirePaths
