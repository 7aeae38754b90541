import TraceQuery.Main
import TraceQuery.Proofs.Select.Names
import TraceQuery.Proofs.Select.Agreeing
import TraceQuery.Proofs.View.Closed
import TraceQuery.Proofs.Select.Alike
import TraceQuery.Proofs.View.Alike
import TraceQuery.Proofs.Sql.Lexemes
import TraceQuery.Proofs.Select.Whole
import TraceQuery.Proofs.View.Outputs
import TraceQuery.Proofs.View.ScoreNames
import TraceQuery.Proofs.Query.Binding
import TraceQuery.Proofs.Query.Values
import TraceQuery.Proofs.Query.Extending
import TraceQuery.Proofs.Filter.Typing
import TraceQuery.Proofs.Select.Typing
import TraceQuery.Proofs.Select.Together
import TraceQuery.Proofs.View.Typing
import TraceQuery.Proofs.View.Counting
import TraceQuery.Proofs.View.Comparison
import TraceQuery.Proofs.View.Aliases
import TraceQuery.Proofs.Settings.Layering
import TraceQuery.Proofs.Select.Failing
import TraceQuery.Proofs.View.Failing
import TraceQuery.Proofs.View.Paging
import TraceQuery.Proofs.Select.Thinning
import TraceQuery.Proofs.Sql.Templates
import TraceQuery.Proofs.Sql.Spans
import TraceQuery.Proofs.Filter.Pairing
import TraceQuery.Proofs.Request.Rearranged
import TraceQuery.Proofs.Sql.Quoted
import TraceQuery.Proofs.Sql.Embedding
import TraceQuery.Proofs.Filter.Searching
import TraceQuery.Proofs.Filter.Integers
import TraceQuery.Proofs.Filter.WireForms
import TraceQuery.Proofs.View.ArrayColumns
import TraceQuery.Proofs.Filter.Negation
import TraceQuery.Proofs.Time.Fields
import TraceQuery.Proofs.Time.Timestamps
import TraceQuery.Proofs.Time.Calendar
import TraceQuery.Proofs.Time.Stamps
import TraceQuery.Proofs.Select.Window
import TraceQuery.Proofs.View.Windows
import TraceQuery.Proofs.View.Routing
import TraceQuery.Proofs.Json.Grammar
import TraceQuery.Proofs.Decimal.Exact
import TraceQuery.Proofs.Request.FilterTexts
import TraceQuery.Proofs.Query.Recognition
import TraceQuery.Proofs.View.Offsets
import TraceQuery.Proofs.Query.TemplateNames
import TraceQuery.Proofs.Select.Collisions
import TraceQuery.Proofs.Select.TemplateFilters
import TraceQuery.Proofs.Query.Rendering
import TraceQuery.Proofs.Files.Expanding
