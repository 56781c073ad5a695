import RelationGraph.Declaration
import RelationGraph.Description
import RelationGraph.Repository.Keyed
import RelationGraph.Proofs.ValueEquality
import RelationGraph.Proofs.Trees
import RelationGraph.Proofs.Joins
import RelationGraph.Proofs.Loading
import RelationGraph.Proofs.StoreSteps
import RelationGraph.Proofs.Combining
import RelationGraph.Proofs.Compilation
import RelationGraph.Proofs.Commands
import RelationGraph.Proofs.NestedCreate
import RelationGraph.Proofs.NestedSteps
import RelationGraph.Proofs.NestedLinks
import RelationGraph.Proofs.NestedScope
import RelationGraph.Proofs.PlanTrees
import RelationGraph.Proofs.CompiledPlans
import RelationGraph.Proofs.CommandShapes
import RelationGraph.Proofs.WorkSteps
import RelationGraph.Proofs.RepositorySteps
import RelationGraph.Proofs.Inquiries
import RelationGraph.Proofs.CacheTransparency
import RelationGraph.Proofs.Registrations
import RelationGraph.Proofs.RowFates
import RelationGraph.Proofs.RestrictedWrites
import RelationGraph.Proofs.WellFormedPlans
import RelationGraph.Proofs.CompilableTrees
import RelationGraph.Proofs.NestedFailures
import RelationGraph.Proofs.PayloadShapes
import RelationGraph.Proofs.PartialWrites
import RelationGraph.Proofs.SingleCommands
import RelationGraph.Proofs.NestedFrame
import RelationGraph.Proofs.DocumentText
import RelationGraph.Proofs.PlanText
import RelationGraph.Proofs.Attaching
import RelationGraph.Proofs.StoredKeys
import RelationGraph.Proofs.WriteHistories
import RelationGraph.Proofs.CacheHistories
import RelationGraph.Proofs.StructMapping
import RelationGraph.Proofs.LoadedStructs
import RelationGraph.Proofs.AnswerRows
import RelationGraph.Proofs.MappedCalls
import RelationGraph.Proofs.CatalogSetup
import RelationGraph.Proofs.CombinedNodes
import RelationGraph.Proofs.KeyInference
import RelationGraph.Proofs.ConventionalAssociations
import RelationGraph.Proofs.KeyRoutes
import RelationGraph.Proofs.AssociationRoutes
import RelationGraph.Proofs.ResolvableAssociations
import RelationGraph.Proofs.SequentialCombining
import RelationGraph.Proofs.MethodArguments
import RelationGraph.Proofs.StructAccess
import RelationGraph.Proofs.InvertedKeys
import RelationGraph.Proofs.GeneratedKeys
import RelationGraph.Proofs.DerivedCommands
import RelationGraph.Proofs.SingleCreates
