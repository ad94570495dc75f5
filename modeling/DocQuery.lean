import DocQuery.Endpoint.Handler
import DocQuery.Settings.Basic
import DocQuery.Store.Seed
import DocQuery.Proofs.Value.Overlay
import DocQuery.Proofs.Value.Apart
import DocQuery.Proofs.Value.Identifier
import DocQuery.Proofs.Value.Sound
import DocQuery.Proofs.Value.Decode
import DocQuery.Proofs.Value.Entries
import DocQuery.Proofs.Value.Order
import DocQuery.Proofs.Sorting.Map
import DocQuery.Proofs.Sorting.Stable
import DocQuery.Proofs.Sorting.Order
import DocQuery.Proofs.Outcome
import DocQuery.Proofs.Pattern.Quote
import DocQuery.Proofs.Pattern.Size
import DocQuery.Proofs.Pattern.Space
import DocQuery.Proofs.Pattern.Occurrence
import DocQuery.Proofs.Filter.Entries
import DocQuery.Proofs.Filter.Reach
import DocQuery.Proofs.Filter.Bounds
import DocQuery.Proofs.Request.Filters
import DocQuery.Proofs.Pipeline.Fields
import DocQuery.Proofs.Number.Rounding
import DocQuery.Proofs.Number.Numeral
import DocQuery.Proofs.Pipeline.Inclusion
import DocQuery.Proofs.Request.Order
import DocQuery.Proofs.Listing.Execution
import DocQuery.Proofs.Listing.Meaning
import DocQuery.Proofs.Pipeline.Ordering
import DocQuery.Proofs.Pipeline.Sorted
import DocQuery.Proofs.Pipeline.Matching
import DocQuery.Proofs.Pipeline.Delivery
import DocQuery.Proofs.Listing.Restriction
import DocQuery.Proofs.Request.Query
import DocQuery.Proofs.Request.Identifier
import DocQuery.Proofs.Request.Names
import DocQuery.Proofs.Request.Parameters
import DocQuery.Proofs.Request.Shape
import DocQuery.Proofs.Endpoint.Answer
import DocQuery.Proofs.Endpoint.Pages
import DocQuery.Proofs.Endpoint.Hidden
import DocQuery.Proofs.Endpoint.Status
import DocQuery.Proofs.Endpoint.Body
import DocQuery.Proofs.Endpoint.Pipelines
import DocQuery.Proofs.Endpoint.Embedding
import DocQuery.Proofs.Endpoint.Identifier
import DocQuery.Proofs.Endpoint.Interleaving
import DocQuery.Proofs.Endpoint.PageLength
import DocQuery.Proofs.Endpoint.Rows
import DocQuery.Proofs.Endpoint.Populating
import DocQuery.Proofs.Endpoint.Routing
import DocQuery.Proofs.Store.Log
import DocQuery.Proofs.Endpoint.Joining
import DocQuery.Proofs.Request.Marking
import DocQuery.Proofs.Store.Seeding
import DocQuery.Proofs.Calendar.Characters
import DocQuery.Proofs.Request.Comparison
import DocQuery.Proofs.Value.Removal
import DocQuery.Proofs.Pipeline.Exclusion
import DocQuery.Proofs.Pipeline.Siblings
import DocQuery.Proofs.Calendar.Rendering
import DocQuery.Proofs.Request.Readings
import DocQuery.Proofs.Request.Printed
import DocQuery.Proofs.Value.Lens
import DocQuery.Proofs.Endpoint.Spelling
import DocQuery.Proofs.Request.Leading
import DocQuery.Proofs.Endpoint.PageNumber
import DocQuery.Proofs.Text.Escaping
import DocQuery.Proofs.Endpoint.Guide
import DocQuery.Proofs.Request.Runs
import DocQuery.Proofs.Request.Kinds
