import SeriesCatalog.Main
import SeriesCatalog.Proofs.Query.Rendering
import SeriesCatalog.Proofs.Service.Aggregation
import SeriesCatalog.Proofs.Service.Answer
import SeriesCatalog.Proofs.Service.Wire
import SeriesCatalog.Proofs.Store.History
import SeriesCatalog.Proofs.Store.Loading
import SeriesCatalog.Proofs.Transport.Sessions
import SeriesCatalog.Proofs.Document.Equality
import SeriesCatalog.Proofs.Document.Paths
import SeriesCatalog.Proofs.Store.Facets
import SeriesCatalog.Proofs.Json.Keys
import SeriesCatalog.Proofs.Store.Visibility
import SeriesCatalog.Proofs.Document.Keys
import SeriesCatalog.Proofs.Store.Keys
import SeriesCatalog.Proofs.Store.SchemaKeys
import SeriesCatalog.Proofs.Store.Rearrangement
import SeriesCatalog.Proofs.Store.Ingestion
import SeriesCatalog.Proofs.Service.Audit
import SeriesCatalog.Proofs.Transport.Audit
import SeriesCatalog.Proofs.Store.Refusals
import SeriesCatalog.Proofs.Text.Octets
import SeriesCatalog.Proofs.Document.Equivalence
import SeriesCatalog.Proofs.Query.Validation
import SeriesCatalog.Proofs.Store.FirstContributions
import SeriesCatalog.Proofs.Document.KeyOrder
import SeriesCatalog.Proofs.Store.FieldNames
import SeriesCatalog.Proofs.Store.Batches
import SeriesCatalog.Proofs.Store.FieldPaths
import SeriesCatalog.Proofs.Text.Controls
import SeriesCatalog.Proofs.Json.Controls
import SeriesCatalog.Proofs.Decimal.Magnitudes
import SeriesCatalog.Proofs.Decimal.Notation
import SeriesCatalog.Proofs.Query.Tokens
import SeriesCatalog.Proofs.Service.AuditLines
import SeriesCatalog.Proofs.Document.Written
import SeriesCatalog.Proofs.Service.DistinctLists
import SeriesCatalog.Proofs.Document.Descent
import SeriesCatalog.Proofs.Service.Limits
import SeriesCatalog.Proofs.Config.Precedence
import SeriesCatalog.Proofs.Decimal.Range
import SeriesCatalog.Proofs.Json.Numerals
import SeriesCatalog.Proofs.Json.Reading
import SeriesCatalog.Proofs.Document.Hereditary
import SeriesCatalog.Proofs.Document.Widths
import SeriesCatalog.Proofs.Store.Inheritance
import SeriesCatalog.Proofs.Service.AnswerTexts
import SeriesCatalog.Proofs.Service.AnswerLines
