/-
  What is printed for a query determines the query.

  1. **Values** (`ParamValue.ofJson_toJson`): a bound value is written without its kind, but the shape of the
     JSON value tells it: a string, an integer, a number with a point or an exponent, an array.  This needs
     numbers that are finite and integers of 64 bits (`Query.Writable`).
  2. **Queries** (`Query.toJson_injective`): the parameters are written in the order of their names, each with
     its name, so that no two queries share a JSON value.
  3. **Texts** (`Query.written_render`): both renderings are written for this value, and so have its tokens.
  4. **What is built** (`writable_buildQuery`): every value that a request binds is one that its placeholder's
     type admits, and those can be written.
-/
import TraceQuery.Proofs.Json.Writing
import TraceQuery.Proofs.View.Failing
import TraceQuery.Proofs.View.Typing
import TraceQuery.Query.Json

namespace TraceQuery

open TraceQuery.Json (Value Node Written tokens)

/-! ## Values -/

namespace ParamValue

/-- Tells whether a value can be told from its JSON: its integer has 64 bits, its number is finite. -/
def isWritable : ParamValue → Bool
  | int n => fitsInteger n
  | float d => d.isFinite
  | string _ | strings _ => true

/-- The text of a string. -/
def stringOf : Value → Option String
  | .scalar (.string s) => some s
  | _ => none

/-- The value that a JSON value is written for: the shape tells the kind. -/
def ofJson : Value → Option ParamValue
  | .scalar (.string s) => some (.string s)
  | .scalar (.number (.integer n)) => some (.int n)
  | .scalar (.number (.float x)) => some (.float (.finite x))
  | .array items => some (.strings (items.filterMap stringOf))
  | _ => none

variable {v w : ParamValue}

/-- The shape of the JSON value tells which kind of value was bound. -/
theorem ofJson_toJson (h : v.isWritable = true) : ofJson v.toJson = some v := by
  cases v with
  | string s => rfl
  | int n => rfl
  | float d =>
    cases d with
    | finite x => rfl
    | _ => cases h
  | strings texts =>
    have same : (texts.map Value.string).filterMap stringOf = texts := by
      rw [List.filterMap_map]
      exact List.filterMap_some
    rw [toJson, ofJson, same]

/-- A writable value can be written and read back: its numbers are in the range of the reader. -/
theorem fits_toJson (h : v.isWritable = true) : v.toJson.fits = true := by
  cases v with
  | string s => rfl
  | int n =>
    obtain ⟨low, high⟩ := fitsInteger_iff.mp h
    have wider : Text.maxInteger ≤ Text.maxCount := by decide
    have range : -Int.ofNat (Text.maxInteger + 1) ≤ n ∧ n ≤ Int.ofNat Text.maxCount :=
      ⟨low, Int.le_trans high (Int.ofNat_le.mpr wider)⟩
    exact decide_eq_true range
  | float d => cases d <;> rfl
  | strings texts =>
    refine Json.itemsFit_iff.mpr fun v hv => ?_
    obtain ⟨text, _, rfl⟩ := List.mem_map.mp hv
    rfl

/-- What a type admits can be written. -/
theorem isWritable_of_admits {type : Sql.ColumnType} (h : type.admits v = true) : v.isWritable = true := by
  unfold Sql.ColumnType.admits at h
  split at h
  -- of the values that a type admits only integers can be out of range, and there the type has asked for it
  case h_3 => exact h
  case h_6 => cases h
  all_goals rfl

end ParamValue

/-! ## Queries -/

namespace Query

variable {q r : Query}

/-- Every value of a query can be told from its JSON. -/
def Writable (q : Query) : Prop := ∀ b ∈ q.parameters.entries, b.2.isWritable = true

/-- Whether a query can be told from its JSON is a check of its values. -/
instance (q : Query) : Decidable q.Writable :=
  inferInstanceAs (Decidable (∀ b ∈ q.parameters.entries, b.2.isWritable = true))

/-- The object that is printed for such a query can be read back. -/
theorem fits_toJson (h : q.Writable) : q.toJson.fits = true := by
  have parameters : q.parameters.toJson.fits = true := by
    refine Json.membersFit_iff.mpr fun m hm => ?_
    obtain ⟨b, hb, rfl⟩ := List.mem_map.mp hm
    exact ParamValue.fits_toJson (h b hb)
  refine Json.membersFit_iff.mpr fun m hm => ?_
  rcases List.mem_pair.mp hm with rfl | rfl
  · rfl
  · exact parameters

/-- The entry that a member is written for. -/
def entryOf (m : String × Value) : Option Binding := (ParamValue.ofJson m.2).map fun v => (m.1, v)

/-- The members of the printed object give the entries back. -/
theorem filterMap_entryOf (h : q.Writable) :
    (q.parameters.entries.map fun (name, value) => (name, value.toJson)).filterMap entryOf
      = q.parameters.entries := by
  have each : ∀ b ∈ q.parameters.entries, entryOf (b.1, b.2.toJson) = some b := by
    intro b hb
    rw [entryOf, ParamValue.ofJson_toJson (h b hb)]
    rfl
  rw [List.filterMap_map]
  exact (List.filterMap_congr each).trans List.filterMap_some

/-- No two queries have the same JSON. -/
theorem toJson_injective (hq : q.Writable) (hr : r.Writable) (same : q.toJson = r.toJson) : q = r := by
  -- both objects have the text first and the parameters second
  obtain ⟨text, rest⟩ := List.cons.inj (Value.object.inj same)
  have parameters : q.parameters.toJson = r.parameters.toJson := (Prod.mk.inj (List.cons.inj rest).1).2
  have entries : q.parameters.entries = r.parameters.entries := by
    rw [← filterMap_entryOf hq, ← filterMap_entryOf hr, Value.object.inj parameters]
  refine Query.ext ?_ (Parameters.ext entries)
  exact Json.Scalar.string.inj (Value.scalar.inj (Prod.mk.inj text).2)

/-- Both renderings are texts of the query's value. -/
theorem written_render (h : q.Writable) (pretty : Bool) : Written (Node.ofValue q.toJson) (q.render pretty) := by
  cases pretty
  · exact Json.written_compact (fits_toJson h)
  · exact Json.written_pretty (fits_toJson h)

/-- Every query that is built can be told from its JSON. -/
theorem writable_buildQuery {limits : Limits} {kind : QueryKind} {text : String}
    (built : buildQuery limits kind text = .ok q) : q.Writable := by
  obtain ⟨_, _, _, answered⟩ := buildQuery_eq_ok_iff.mp built
  obtain ⟨slots, filled⟩ := Request.filledBy_query answered
  intro b hb
  obtain ⟨s, _, rfl⟩ := List.mem_map.mp ((filled.entries b).mp hb)
  exact ParamValue.isWritable_of_admits s.admitted

end Query

/-- What is printed determines the query: its text, the names of its parameters, and the kinds and contents of
    their values, where the two zeros differ.  The compact and the pretty text have the same tokens, those of
    the query's value, with its members in their order.  This holds for queries with finite numbers and
    integers of 64 bits, which all queries are that are built. -/
theorem render_determines :
    (∀ limits kind text q, buildQuery limits kind text = .ok q → q.Writable) ∧
    ∀ q : Query, q.Writable →
      (∀ r : Query, r.Writable → ∀ pretty pretty', q.render pretty = r.render pretty' → q = r) ∧
      ∀ pretty, tokens (q.render pretty).toList = (Node.ofValue q.toJson).tokens := by
  refine ⟨fun _ _ _ _ => Query.writable_buildQuery, fun q hq => ⟨?_, fun pretty => ?_⟩⟩
  · intro r hr pretty pretty' same
    have written := Query.written_render hq pretty
    rw [same] at written
    exact Query.toJson_injective hq hr (Json.eq_of_written written (Query.written_render hr pretty'))
  · exact Json.tokens_of_written (Query.written_render hq pretty)

/-- The empty request for sessions, and two queries whose parameters were bound in opposite orders: a quote,
    and a negative zero. -/
theorem render_determines_reordered :
    let bound (entries : List Binding) (ordered : Ascending entries) : Query := ⟨"", entries, ordered⟩
    let q := bound (insertBinding "b" (.float (.finite (.zero true))) (insertBinding "a" (.string "\"") []))
      (ascending_insertBinding (ascending_insertBinding .nil))
    let r := bound (insertBinding "a" (.string "\"") (insertBinding "b" (.float (.finite (.zero true))) []))
      (ascending_insertBinding (ascending_insertBinding .nil))
    (∃ built, buildQuery Limits.default .sessions "\x7b\x7d" = .ok built ∧ built.Writable) ∧
      q.render true = r.render true ∧ q = r ∧
      tokens (q.render true).toList = (Node.ofValue q.toJson).tokens := by
  intro bound q r
  have hq : q.Writable := by decide
  have hr : r.Writable := by decide
  have same : q.render true = r.render true := by decide +kernel
  obtain ⟨determined, spelled⟩ := render_determines.2 q hq
  refine ⟨?_, same, determined r hr true true same, spelled true⟩
  let plain : SessionsRequest :=
    { filters := [], traceIds := [], time := .none, sortBy := none, sortDirection := none
      page := ⟨none, none, none, none⟩ }
  have parsed := Json.Document.ofText_of_tokens
    (show Json.tokensWithin _ "\x7b\x7d".toList = [.openBrace, .closeBrace] by decide +kernel)
  have read : Request.ofText .sessions "\x7b\x7d" = .ok (.sessions plain) := by
    rw [Request.ofText, SessionsRequest.ofText, parsed]
    rfl
  obtain ⟨built, answered⟩ := (failsWith_buildQuery Limits.default read).eq_ok_iff.mpr (by decide)
  exact ⟨built, answered, render_determines.1 _ _ _ _ answered⟩

end TraceQuery
