/-
  Which rows a list asks for, after its paging has been brought within limits.

  1. **Clamping** (`PageInput.Sized`): the first clamp gives a request its size, and every clamp takes the
     least of the size and its own largest one.  Nothing else that a page depends on changes, so after
     any number of clamps the size is the least of the size asked for and of all largest sizes
     (`PageInput.sized_clampAll`).

  2. **Bounds** (`Query.Pages`): the size and the rows passed over are bound as integers of 64 bits, cut at
     the largest one.  The offset of a page is first cut at the largest count; as that is the larger
     bound, the parameter is that of the exact product.

  3. **Lists** (`Request.pages_listQuery`): every list of the three views that has a page binds it so,
     beside a target run too, and the page has no part in whether the list is built.

  4. **Next pages** (`PageInput.pages_of_clampAll`): where nothing is cut, the next page begins where the
     page ends.

  Mathlib-free.
-/
import TraceQuery.Proofs.View.Comparison
import TraceQuery.Proofs.View.Failing

namespace TraceQuery

open TraceQuery.Text (maxCount maxInteger)

/-! ## Clamping -/

namespace PageInput

/-- The request brought within limits several times over, each time with a default size and a largest
    one. -/
def clampAll (p : PageInput) (limits : List (Nat × Nat)) : PageInput :=
  limits.foldl (fun p l => p.clamp l.1 l.2) p

/-- A request is paged as another one is, by pages of a size. -/
structure Sized (p : PageInput) (size : Nat) (q : PageInput) : Prop where
  /-- a limit takes the size -/
  limit : q.limit = p.limit.map fun _ => size
  /-- and so does a page size, where there is no limit -/
  pageSize : p.limit = .none → q.pageSize = some size
  /-- the page number is never changed -/
  pageNumber : q.pageNumber = p.pageNumber
  /-- nor is the offset -/
  offset : q.offset = p.offset

/-- The first clamp gives a request its size: the one asked for or the default one, cut at the largest. -/
theorem sized_clamp (p : PageInput) (defaultSize maxSize : Nat) :
    p.Sized (min ((p.limit.or p.pageSize).getD defaultSize) maxSize) (p.clamp defaultSize maxSize) := by
  obtain ⟨number, size?, limit?, offset⟩ := p
  cases limit? with
  | some limit => exact ⟨rfl, (fun h => nomatch h), rfl, rfl⟩
  | none =>
    cases size? with
    | some size => exact ⟨rfl, fun _ => rfl, rfl, rfl⟩
    | none => exact ⟨rfl, fun _ => rfl, rfl, rfl⟩

/-- A request that has a size keeps its kind of paging, and its size is cut. -/
theorem Sized.clamp {p q : PageInput} {size : Nat} (h : p.Sized size q) (defaultSize maxSize : Nat) :
    p.Sized (min size maxSize) (q.clamp defaultSize maxSize) := by
  have sized : (q.limit.or q.pageSize).getD defaultSize = size := by
    rw [h.limit]
    cases hp : p.limit with
    | some limit => rfl
    | none => rw [h.pageSize hp]; rfl
  have next := q.sized_clamp defaultSize maxSize
  rw [sized] at next
  refine ⟨?_, ?_, next.pageNumber.trans h.pageNumber, next.offset.trans h.offset⟩
  · rw [next.limit, h.limit, Option.map_map]
    rfl
  · intro hp
    exact next.pageSize (by rw [h.limit, hp]; rfl)

/-- After any number of clamps the size is the least of all. -/
theorem sized_clampAll (p : PageInput) (first : Nat × Nat) (rest : List (Nat × Nat)) :
    p.Sized (((first :: rest).map Prod.snd).foldl min ((p.limit.or p.pageSize).getD first.1))
      (p.clampAll (first :: rest)) := by
  suffices h : ∀ (q : PageInput) (size : Nat), p.Sized size q →
      p.Sized ((rest.map Prod.snd).foldl min size) (q.clampAll rest) from
    h _ _ (p.sized_clamp first.1 first.2)
  -- by induction on the clamps that follow the first, each of which cuts the size that there is
  induction rest with
  | nil => exact fun _ _ h => h
  | cons l rest ih => exact fun q size h => ih _ _ (h.clamp l.1 l.2)

/-- The page of a request of a size. -/
theorem Sized.page? {p q : PageInput} {size : Nat} (h : p.Sized size q) :
    q.page? = some ⟨size, if p.limit.isSome then p.offset.getD 0
      else min (p.pageNumber.getD 0 * size) maxCount⟩ := by
  rw [PageInput.page?, h.limit]
  cases hp : p.limit with
  | some limit =>
    show some (⟨size, q.offset.getD 0⟩ : Page) = _
    rw [h.offset]
    rfl
  | none =>
    show (q.pageSize.map fun size => Page.ofNumber (q.pageNumber.getD 0) size) = _
    rw [h.pageSize hp, h.pageNumber]
    rfl

/-- The same clamp again changes nothing. -/
theorem clamp_clamp (p : PageInput) (defaultSize maxSize : Nat) :
    (p.clamp defaultSize maxSize).clamp defaultSize maxSize = p.clamp defaultSize maxSize := by
  obtain ⟨number, size?, limit?, offset⟩ := p
  cases limit? <;> cases size? <;> simp [clamp]

/-- The last of several clamps is made last. -/
theorem clampAll_concat (p : PageInput) (limits : List (Nat × Nat)) (last : Nat × Nat) :
    p.clampAll (limits ++ [last]) = (p.clampAll limits).clamp last.1 last.2 := by
  rw [clampAll, List.foldl_append]
  rfl

end PageInput

/-! ## Bounds -/

/-- The query has a page: its size and the rows passed over, both cut at the largest integer. -/
structure Query.Pages (q : Query) (size offset : Nat) : Prop where
  limit : q.parameters.find? "limit" = some (.int (Int.ofNat (min size maxInteger)))
  offset : q.parameters.find? "offset" = some (.int (Int.ofNat (min offset maxInteger)))

/-- A select with a page binds it. -/
theorem Select.Named.pages {s : Select} (h : s.Named) {page : Page} (paged : s.page = some page)
    {q : Query} (built : s.build = .ok q) : q.Pages page.limit page.offset := by
  have bound {b : Binding} (hb : b ∈ page.clause.bindings) : q.parameters.find? b.1 = some b.2 := by
    rw [Parameters.find?_eq_some_iff, h.mem_entries built, bindings, paged]
    exact List.mem_flatMap.mpr ⟨page.clause, List.mem_append_right _ (by simp), hb⟩
  exact ⟨bound List.mem_cons_self, bound (List.mem_cons_of_mem _ List.mem_cons_self)⟩

/-- A binding of a new name leaves the page as it is. -/
theorem Query.Pages.insert {q : Query} {size offset : Nat} (h : q.Pages size offset) {name : String}
    (fresh : name ∉ q.parameters.names) (value : ParamValue) (text : String) :
    Query.Pages ⟨text, q.parameters.insert name value⟩ size offset := by
  have keeps {n : String} {v : ParamValue} (hn : q.parameters.find? n = some v) :
      (q.parameters.insert name value).find? n = some v := by
    rw [Parameters.find?_eq_some_iff] at hn ⊢
    exact (mem_insertBinding fresh).mpr (.inr hn)
  exact ⟨keeps h.limit, keeps h.offset⟩

/-- An offset that has been cut at the largest count is bound as the exact one is. -/
theorem Query.Pages.exact {q : Query} {size offset : Nat} (h : q.Pages size (min offset maxCount)) :
    q.Pages size offset := by
  have cut : min (min offset maxCount) maxInteger = min offset maxInteger := by
    rw [maxCount, maxInteger]
    omega
  exact ⟨h.limit, cut ▸ h.offset⟩

/-- What is small enough is bound as it is. -/
theorem Query.Pages.find? {q : Query} {size offset : Nat} (h : q.Pages size offset)
    (sizeFits : size ≤ maxInteger) (offsetFits : offset ≤ maxInteger) :
    q.parameters.find? "limit" = some (.int (Int.ofNat size)) ∧
      q.parameters.find? "offset" = some (.int (Int.ofNat offset)) := by
  have limit := h.limit
  have offset := h.offset
  rw [Nat.min_eq_left sizeFits] at limit
  rw [Nat.min_eq_left offsetFits] at offset
  exact ⟨limit, offset⟩

/-! ## Lists -/

namespace Request

/-- The request with another page. -/
def withPage (page : PageInput) : Request → Request
  | spans r => spans { r with page }
  | sessions r => sessions { r with page }
  | eval r => eval { r with page }

/-- The list of a request. -/
def listQuery : Request → Except QueryError Query
  | spans r => r.listQuery
  | sessions r => r.listQuery
  | eval r => r.toOptions.runQuery

/-- A list with a page binds it, whatever else is asked for. -/
theorem pages_listQuery {r : Request} {p : PageInput} {page : Page} (paged : p.page? = some page)
    {q : Query} (built : (r.withPage p).listQuery = .ok q) : q.Pages page.limit page.offset := by
  cases r with
  | spans r =>
    have built : ({ r with page := p } : SpansRequest).listQuery = .ok q := built
    rw [SpansRequest.listQuery_eq] at built
    obtain ⟨window, hw, built⟩ := bind_eq_ok built
    exact (SpansRequest.agreeing_selectOf _ Spans.plain_columns (TimeInput.onColumn_of_resolve hw)
      (SpansRequest.plain_order _) _).named.pages paged built
  | sessions r =>
    have built : ({ r with page := p } : SessionsRequest).listQuery = .ok q := built
    rw [SessionsRequest.listQuery_eq] at built
    obtain ⟨window, hw, built⟩ := bind_eq_ok built
    exact (SessionsRequest.agreeing_selectOf _ Sessions.plain_columns
      (TimeInput.onColumn_of_resolve hw) SessionsRequest.plain_sessionIds
      (SessionsRequest.plain_order _) _).named.pages paged built
  | eval r =>
    let o : EvalOptions := ({ r with page := p } : EvalRequest).toOptions
    have silent : ∀ c ∈ o.columns, c.Silent := EvalRequest.silent_columns _
    have ran : o.runQuery = .ok q := built
    cases primary : o.primarySelect.build with
    | error e =>
      rw [o.runQuery_of_error primary] at ran
      cases ran
    | ok run =>
      -- the run binds its page, and the target run adds one parameter of another name
      have own : run.Pages page.limit page.offset :=
        (EvalOptions.agreeing_primary silent).named.pages paged primary
      cases target : o.targetId with
      | none =>
        rw [o.runQuery_of_ok primary, o.joinTarget_of_none target] at ran
        exact Except.ok.inj ran ▸ own
      | some t =>
        obtain ⟨fresh, joined⟩ := EvalOptions.runQuery_of_target silent target primary
        rw [joined] at ran
        exact Except.ok.inj ran ▸ own.insert fresh _ _

/-- The page has no part in whether a list is built. -/
theorem listQuery_answers (r : Request) :
    (∀ page, ∃ q, (r.withPage page).listQuery = .ok q) ∨
      ∃ e, ∀ page, (r.withPage page).listQuery = .error e := by
  have fails (page : PageInput) : FailsWith
      ((r.badDate.map .invalidTimestamp).or (r.firstRefused.map Filter.unsupported))
      (r.withPage page).listQuery := by
    cases r with
    | spans r => exact failsWith_query .spans (.spans { r with page })
    | sessions r => exact failsWith_query .sessions (.sessions { r with page })
    | eval r => exact failsWith_query .eval (.eval { r with page })
  cases failing : (r.badDate.map QueryError.invalidTimestamp).or
      (r.firstRefused.map Filter.unsupported) with
  | none => exact .inl fun page => (fails page).eq_ok_iff.mpr failing
  | some e => exact .inr ⟨e, fun page => (fails page).eq_error_iff.mpr failing⟩

end Request

/-! ## Pages one after another -/

namespace PageInput

/-- What a request passes over, if its pages have a size. -/
def rowsBefore (p : PageInput) (size : Nat) : Nat :=
  if p.limit.isSome then p.offset.getD 0 else p.pageNumber.getD 0 * size

/-- A list with pages of a size binds the size and what is passed over. -/
theorem Sized.pages {p clamped : PageInput} {size : Nat} (h : p.Sized size clamped) {r : Request}
    {q : Query} (built : (r.withPage clamped).listQuery = .ok q) :
    q.Pages size (p.rowsBefore size) := by
  have pages := Request.pages_listQuery h.page? built
  rw [rowsBefore]
  cases hp : p.limit with
  | some limit =>
    rw [hp] at pages
    exact pages
  | none =>
    rw [hp] at pages
    exact pages.exact

/-- A request brought within limits at least once has a page.  Its size is the least of the size asked for
    and all largest sizes; what is passed over is what it says beside a limit, and else the pages in
    front of it.  Every list built of it binds just that, cut only at the largest integer, and where
    nothing is cut the next page begins where the page ends.  The last clamp made again changes
    nothing. -/
theorem pages_of_clampAll (p : PageInput) (first : Nat × Nat) (rest : List (Nat × Nat)) :
    let clamped := p.clampAll (first :: rest)
    let size := ((first :: rest).map Prod.snd).foldl min ((p.limit.or p.pageSize).getD first.1)
    let offset := if p.limit.isSome then p.offset.getD 0 else p.pageNumber.getD 0 * size
    clamped.page? = some ⟨size, if p.limit.isSome then p.offset.getD 0 else min offset maxCount⟩ ∧
    (∀ r : Request, (∃ q, (r.withPage clamped).listQuery = .ok q ∧ q.Pages size offset) ∨
      ∃ e, ∀ page, (r.withPage page).listQuery = .error e) ∧
    (p.limit = .none → ∀ n, p.pageNumber.getD 0 = n → (n + 1) * size ≤ maxInteger →
      ∀ (r : Request) (q next : Query), (r.withPage clamped).listQuery = .ok q →
        (r.withPage ({ p with pageNumber := some (n + 1) }.clampAll (first :: rest))).listQuery
          = .ok next →
        ∃ start count : Int, q.parameters.find? "offset" = some (.int start) ∧
          q.parameters.find? "limit" = some (.int count) ∧
          next.parameters.find? "offset" = some (.int (start + count)) ∧
          next.parameters.find? "limit" = some (.int count)) ∧
    ∀ last ∈ (first :: rest).getLast?, clamped.clamp last.1 last.2 = clamped := by
  intro clamped size offset
  have sized : p.Sized size clamped := p.sized_clampAll first rest
  refine ⟨?page, ?lists, ?next, ?last⟩
  case page =>
    rw [sized.page?]
    cases hp : p.limit.isSome with
    | true => rfl
    | false => simp [offset, hp, maxCount]
  case lists =>
    intro r
    rcases r.listQuery_answers with built | failed
    · obtain ⟨q, built⟩ := built clamped
      exact .inl ⟨q, built, sized.pages built⟩
    · exact .inr failed
  case next =>
    intro byNumber n number small r q next built built'
    let p' : PageInput := { p with pageNumber := some (n + 1) }
    have sized' : p'.Sized size (p'.clampAll (first :: rest)) := p'.sized_clampAll first rest
    have before : p.rowsBefore size = n * size := by simp [rowsBefore, byNumber, number]
    have before' : p'.rowsBefore size = n * size + size := by
      simp [rowsBefore, p', byNumber, Nat.succ_mul]
    -- the bound on the next page leaves room for this one too
    rw [Nat.succ_mul] at small
    obtain ⟨limit, offset⟩ := (before ▸ sized.pages built).find? (by omega) (by omega)
    obtain ⟨limit', offset'⟩ := (before' ▸ sized'.pages built').find? (by omega) small
    exact ⟨_, _, offset, limit, offset', limit'⟩
  case last =>
    intro last hl
    obtain ⟨before, same⟩ := List.getLast?_eq_some_iff.mp hl
    show (p.clampAll (first :: rest)).clamp last.1 last.2 = p.clampAll (first :: rest)
    rw [same, clampAll_concat, clamp_clamp]

end PageInput

end TraceQuery
