import CriteriaQuery.Catalog
import CriteriaQuery.Database.Pool
import CriteriaQuery.Proofs.Additive
import CriteriaQuery.Proofs.Agreement
import CriteriaQuery.Proofs.Appending
import CriteriaQuery.Proofs.Assembly
import CriteriaQuery.Proofs.Augmentation
import CriteriaQuery.Proofs.ByteOffsets
import CriteriaQuery.Proofs.CatalogHistory
import CriteriaQuery.Proofs.ColumnBindings
import CriteriaQuery.Proofs.Compilation
import CriteriaQuery.Proofs.Deduplication
import CriteriaQuery.Proofs.DeletedRows
import CriteriaQuery.Proofs.DistinctQueries
import CriteriaQuery.Proofs.DistinctStatements
import CriteriaQuery.Proofs.EntryPoints
import CriteriaQuery.Proofs.ExecutedText
import CriteriaQuery.Proofs.Expressions
import CriteriaQuery.Proofs.Fetching
import CriteriaQuery.Proofs.FilterBinding
import CriteriaQuery.Proofs.Fitting
import CriteriaQuery.Proofs.IdentifierGrammar
import CriteriaQuery.Proofs.Insertions
import CriteriaQuery.Proofs.IntegerLists
import CriteriaQuery.Proofs.IntegralFloats
import CriteriaQuery.Proofs.JoinAliases
import CriteriaQuery.Proofs.JsonText
import CriteriaQuery.Proofs.JsonTrees
import CriteriaQuery.Proofs.JsonValues
import CriteriaQuery.Proofs.Lifecycle
import CriteriaQuery.Proofs.LifecycleRegistration
import CriteriaQuery.Proofs.NeutralFilters
import CriteriaQuery.Proofs.OptionsText
import CriteriaQuery.Proofs.Placeholders
import CriteriaQuery.Proofs.PrimaryKeyLookup
import CriteriaQuery.Proofs.References
import CriteriaQuery.Proofs.RenderingFailures
import CriteriaQuery.Proofs.Repeats
import CriteriaQuery.Proofs.Runs
import CriteriaQuery.Proofs.ScanInvariant
import CriteriaQuery.Proofs.ScannedInPlace
import CriteriaQuery.Proofs.Selections
import CriteriaQuery.Proofs.StoppedPasses
import CriteriaQuery.Proofs.Symbols
import CriteriaQuery.Proofs.Truncation
import CriteriaQuery.Proofs.ValueIndependence
import CriteriaQuery.Proofs.WireReading
import CriteriaQuery.Repository.Fetching
import CriteriaQuery.Repository.Options
import CriteriaQuery.Wire.Encoding
