/-
  The kinds of query, and the building of one from the text of its request.

  The request is read first, then its filters are counted, then its paging is brought within limits,
  and then the query is built.

  1. **Kinds** (`QueryKind`): three views, with a count for each and statistics for evaluations.  The
     kind decides which reader takes the text, so one text can be a request of one kind and malformed
     as another.
  2. **Building** (`buildQuery`): a plain function of limits, kind and text.  Its errors are of two
     sorts (`BuildError`), of reading and of the query, and reading always comes first.

  Mathlib-free.
-/
import TraceQuery.Request.Views
import TraceQuery.Settings.Layers

namespace TraceQuery

/-- What is asked for: the rows of a view, their number, or statistics over them. -/
inductive QueryKind where
  | spans
  | spansCount
  | sessions
  | sessionsCount
  | eval
  | evalStats
  | evalCount
deriving DecidableEq, Repr

namespace QueryKind

/-- The name of a kind on the command line and in messages. -/
def name : QueryKind → String
  | spans => "spans"
  | spansCount => "spans-count"
  | sessions => "sessions"
  | sessionsCount => "sessions-count"
  | eval => "eval"
  | evalStats => "eval-stats"
  | evalCount => "eval-count"

/-- The kinds, in the order in which messages list them. -/
def all : List QueryKind :=
  [spans, spansCount, sessions, sessionsCount, eval, evalStats, evalCount]

/-- The kind with this name in any case of letters; `evaluation` is another name of `eval`. -/
def ofName? (text : String) : Option QueryKind :=
  -- letters are folded before either name is looked for
  let lower := Text.lowercase text
  if lower = "evaluation" then some eval else all.find? fun kind => kind.name == lower

end QueryKind

/-! ## Building -/

/-- Why a request gives no query. -/
inductive BuildError where
  | invalidRequest (kind : QueryKind) (error : Json.ReadError)
  | query (error : QueryError)
deriving DecidableEq

/-- The message; a request that cannot be read says of which kind it was meant to be. -/
def BuildError.message : BuildError → String
  | invalidRequest kind error => "Invalid " ++ kind.name ++ " request: " ++ error.message
  | query error => error.message

/-- A request of one of the three views. -/
inductive Request where
  | spans (request : SpansRequest)
  | sessions (request : SessionsRequest)
  | eval (request : EvalRequest)

namespace Request

/-- The request of a kind of query in a text. -/
def ofText (kind : QueryKind) (text : String) : Except Json.ReadError Request :=
  match kind with
  | .spans | .spansCount => (SpansRequest.ofText text).map .spans
  | .sessions | .sessionsCount => (SessionsRequest.ofText text).map .sessions
  | .eval | .evalStats | .evalCount => (EvalRequest.ofText text).map .eval

/-- The filters of a request, which every view has. -/
def filters : Request → List Filter
  | spans r => r.filters
  | sessions r => r.filters
  | eval r => r.filters

/-- The request with its paging brought within limits. -/
def clamp (limits : Limits) : Request → Request
  | spans r => spans { r with page := r.page.clamp limits.defaultPageSize limits.maxPageSize }
  | sessions r => sessions { r with page := r.page.clamp limits.defaultPageSize limits.maxPageSize }
  | eval r => eval { r with page := r.page.clamp limits.defaultPageSize limits.maxPageSize }

/-- The query of a request: the count of its view for the kinds that count, the statistics, or the
    list. -/
def query (kind : QueryKind) : Request → Except QueryError Query
  | spans r => if kind = .spansCount then r.countQuery else r.listQuery
  | sessions r => if kind = .sessionsCount then r.countQuery else r.listQuery
  | eval r =>
    match kind with
    | .evalStats => r.toOptions.statsQuery
    | .evalCount => r.toOptions.countQuery
    | _ => r.toOptions.runQuery

/-- The query of a request within limits. -/
def queryWithin (limits : Limits) (kind : QueryKind) (r : Request) : Except QueryError Query := do
  -- counting comes before any filter is looked at, so its error wins over every other of the query
  checkFilterCount limits.maxFilters r.filters
  (r.clamp limits).query kind

end Request

/-- The query of a request text within limits. -/
def buildQuery (limits : Limits) (kind : QueryKind) (text : String) : Except BuildError Query :=
  match Request.ofText kind text with
  | .error e => .error (.invalidRequest kind e)
  | .ok request =>
    match request.queryWithin limits kind with
    | .error e => .error (.query e)
    | .ok q => .ok q

end TraceQuery
