import PageSearch.Filter.RawExtraction
import PageSearch.Main
import PageSearch.Service.Route
import PageSearch.Value.Equality
import PageSearch.Proofs.Filter.Composition
import PageSearch.Proofs.Filter.Conservation
import PageSearch.Proofs.Filter.Independence
import PageSearch.Proofs.Field.Localization
import PageSearch.Proofs.Document.Narrowing
import PageSearch.Proofs.Hit.Sources
import PageSearch.Proofs.Plan.StoredFields
import PageSearch.Proofs.Hit.Grouping
import PageSearch.Proofs.Plan.Filters
import PageSearch.Proofs.Searcher.Preparation
import PageSearch.Proofs.Searcher.Filters
import PageSearch.Proofs.Settings.Range
import PageSearch.Proofs.Plan.Faults
import PageSearch.Proofs.Plan.Body
import PageSearch.Proofs.Plan.Phrases
import PageSearch.Proofs.Searcher.Limits
import PageSearch.Proofs.Settings.Indices
import PageSearch.Proofs.Filter.Leading
import PageSearch.Proofs.Searcher.Override
import PageSearch.Proofs.Hit.Excerpt
import PageSearch.Proofs.Backend.Clients
import PageSearch.Proofs.Backend.Executions
import PageSearch.Proofs.Decimal.Range
import PageSearch.Proofs.Settings.Defaults
import PageSearch.Proofs.Settings.Loading
import PageSearch.Proofs.Hit.Malformed
import PageSearch.Proofs.Searcher.Indices
import PageSearch.Proofs.Searcher.Refusals
import PageSearch.Proofs.Plan.Texts
import PageSearch.Proofs.Decimal.Reading
import PageSearch.Proofs.Service.Forms
import PageSearch.Proofs.Decimal.Exact
import PageSearch.Proofs.Document.Lookup
import PageSearch.Proofs.Settings.Requested
import PageSearch.Proofs.Field.Template
import PageSearch.Proofs.Field.Substitution
import PageSearch.Proofs.Decimal.Order
import PageSearch.Proofs.Snippet.WordCut
import PageSearch.Proofs.Snippet.Growth
import PageSearch.Proofs.Plan.Coverage
import PageSearch.Proofs.Field.Weights
import PageSearch.Proofs.Plan.Weights
import PageSearch.Proofs.Filter.Span
import PageSearch.Proofs.Snippet.NormalForm
