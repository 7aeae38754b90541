/-
  What becomes of the offset that a request for a list gives.

  A request pages by limit and offset, or by page number and page size.  Its limit tells that the first pair
  holds; a page size without a limit, that the second one does.

  1. **Lists** (`buildQuery_pages`): every list that is built binds a size, which is the one asked for or
     the default one, cut at the largest size, and the rows in front of its page.
  2. **Offsets** (`offset_kept_of_limit`): with a limit these rows are as many as the offset; with a page
     size in its place they are those of the pages in front, and the offset is not looked at.

  Both follow from what every clamped request binds (`PageInput.Sized.pages`); what is left to do here is to
  find the request in the text and its page in the request.
-/
import TraceQuery.Proofs.View.Paging
import TraceQuery.Proofs.View.Typing

namespace TraceQuery

open TraceQuery.Text (maxInteger)

/-- The kinds whose queries list rows; the others count or average them. -/
def QueryKind.isList : QueryKind → Bool
  | spans | sessions | eval => true
  | _ => false

namespace Request

/-- The paging that a request asks for, whatever it is a request for. -/
def page : Request → PageInput
  | spans r => r.page
  | sessions r => r.page
  | eval r => r.page

/-- For a kind that lists rows the query of a request is its list. -/
theorem query_of_isList {kind : QueryKind} (lists : kind.isList = true) (r : Request) :
    r.query kind = r.listQuery := by
  cases kind with
  | spans | sessions | eval => cases r <;> rfl
  | _ => cases lists

/-- Limits change the page of a request and nothing else. -/
theorem clamp_eq_withPage (limits : Limits) (r : Request) :
    r.clamp limits = r.withPage (r.page.clamp limits.defaultPageSize limits.maxPageSize) := by
  cases r <;> rfl

/-- The size of the page that a request gets within limits. -/
def sizeWithin (limits : Limits) (r : Request) : Nat :=
  min ((r.page.limit.or r.page.pageSize).getD limits.defaultPageSize) limits.maxPageSize

end Request

section

variable {limits : Limits} {kind : QueryKind} {text : String} {r : Request} {q : Query}

/-- A list that is built has a page of the request's size, behind the rows that are in front of it. -/
theorem buildQuery_pages (lists : kind.isList = true) (read : Request.ofText kind text = .ok r)
    (built : buildQuery limits kind text = .ok q) :
    q.Pages (r.sizeWithin limits) (r.page.rowsBefore (r.sizeWithin limits)) := by
  obtain ⟨r', read', _, answered⟩ := buildQuery_eq_ok_iff.mp built
  obtain rfl : r = r' := Except.ok.inj (read.symm.trans read')
  rw [Request.clamp_eq_withPage, Request.query_of_isList lists] at answered
  exact (r.page.sized_clamp _ _).pages answered

/-- A list of a request that gives an offset and no page number.  With a limit the list binds both, each cut
    at the largest integer.  With a page size and no limit the request asks for a page of this size, the first
    one as it gives no number. -/
theorem offset_kept_of_limit (lists : kind.isList = true) (read : Request.ofText kind text = .ok r)
    {n : Nat} (asked : r.page.offset = some n) (unnumbered : r.page.pageNumber = none)
    (built : buildQuery limits kind text = .ok q) :
    (∀ limit, r.page.limit = some limit → q.Pages (min limit limits.maxPageSize) n) ∧
    ∀ size, r.page.limit = none → r.page.pageSize = some size →
      q.Pages (min size limits.maxPageSize) 0 := by
  have pages := buildQuery_pages lists read built
  constructor
  · intro limit given
    have before (size : Nat) : r.page.rowsBefore size = n := by
      simp [PageInput.rowsBefore, given, asked]
    rw [before, Request.sizeWithin, given] at pages
    exact pages
  · intro size unlimited given
    have before (size : Nat) : r.page.rowsBefore size = 0 := by
      simp [PageInput.rowsBefore, unlimited, unnumbered]
    rw [before, Request.sizeWithin, unlimited, given] at pages
    exact pages

end

/-- A limit beside an offset that is larger than any integer. -/
theorem offset_kept_of_limit_beyond :
    ∃ q, buildQuery Limits.default .sessions "\x7b\"offset\":18446744073709551615,\"limit\":9\x7d" = .ok q ∧
      q.parameters.find? "limit" = some (.int 9) ∧
      q.parameters.find? "offset" = some (.int (Int.ofNat maxInteger)) := by
  let r : SessionsRequest :=
    { filters := [], traceIds := [], time := .none, sortBy := none, sortDirection := none
      page := ⟨none, none, some 9, some 18446744073709551615⟩ }
  have parsed := Json.Document.ofText_of_tokens (show Json.tokensWithin _
      "\x7b\"offset\":18446744073709551615,\"limit\":9\x7d".toList
      = [.openBrace, .scalar (.string "offset"), .colon, .scalar (.number (.integer 18446744073709551615)),
        .comma, .scalar (.string "limit"), .colon, .scalar (.number (.integer 9)), .closeBrace] by
    decide +kernel)
  have read : Request.ofText .sessions "\x7b\"offset\":18446744073709551615,\"limit\":9\x7d"
      = .ok (.sessions r) := by
    rw [Request.ofText, SessionsRequest.ofText, parsed]
    rfl
  -- nothing in this request can fail, so its list is built
  obtain ⟨q, built⟩ := (failsWith_buildQuery Limits.default read).eq_ok_iff.mpr (by decide)
  have pages := (offset_kept_of_limit rfl read rfl rfl built).1 9 rfl
  exact ⟨q, built, pages.limit, pages.offset⟩

/-- An offset beside a page size belongs to the pair that does not hold. -/
theorem offset_not_kept :
    ∃ r q, Request.ofText .spans "\x7b\"offset\":5,\"pageSize\":10\x7d" = .ok r ∧
      r.page.offset = some 5 ∧ r.page.pageNumber = none ∧
      buildQuery Limits.default .spans "\x7b\"offset\":5,\"pageSize\":10\x7d" = .ok q ∧
      q.parameters.find? "limit" = some (.int 10) ∧ q.parameters.find? "offset" = some (.int 0) := by
  let r : SpansRequest :=
    { spanIds := [], traceIds := [], filters := [], time := .none, sortBy := none
      sortDirection := none, page := ⟨none, some 10, none, some 5⟩ }
  have parsed := Json.Document.ofText_of_tokens (show Json.tokensWithin _
      "\x7b\"offset\":5,\"pageSize\":10\x7d".toList
      = [.openBrace, .scalar (.string "offset"), .colon, .scalar (.number (.integer 5)), .comma,
        .scalar (.string "pageSize"), .colon, .scalar (.number (.integer 10)), .closeBrace] by
    decide +kernel)
  have read : Request.ofText .spans "\x7b\"offset\":5,\"pageSize\":10\x7d" = .ok (.spans r) := by
    rw [Request.ofText, SpansRequest.ofText, parsed]
    rfl
  obtain ⟨q, built⟩ := (failsWith_buildQuery Limits.default read).eq_ok_iff.mpr (by decide)
  have pages := buildQuery_pages rfl read built
  exact ⟨_, q, read, rfl, rfl, built, pages.limit, pages.offset⟩

end TraceQuery
