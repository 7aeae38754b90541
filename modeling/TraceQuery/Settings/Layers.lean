/-
  Settings: which limits hold, and how output looks.

  1. **A configuration file** (`ConfigFile`) mentions some of the settings.  Files are merged so that
     the later one wins setting by setting: a section that is there but does not mention a setting
     leaves it as it was.
  2. **Overrides** of the command line and the environment win over files, and files over defaults
     (`Settings.resolve`).
  3. **Validity**: sizes are positive, and the default page is not larger than the largest one.  It is
     asked of the outcome only.  A file that is invalid by itself does no harm if a layer over it puts
     it right, and two layers that are each valid can be invalid together.

  Every layer is a record of options, and merging takes the first value that is there from the top.

  Mathlib-free.
-/
import TraceQuery.Json.Value
import TraceQuery.Text.Numeral

namespace TraceQuery

/-! ## Configuration files -/

/-- The settings about queries that a file mentions. -/
structure QuerySection where
  defaultPageSize : Option Nat
  maxPageSize : Option Nat
  maxFilters : Option Nat
deriving DecidableEq, Repr

/-- The settings about output that a file mentions. -/
structure OutputSection where
  pretty : Option Bool
deriving DecidableEq, Repr

/-- A configuration file: its sections, and the members that are no section. -/
structure ConfigFile where
  query : Option QuerySection
  output : Option OutputSection
  extra : List (String × Json.Value)

/-- A section that mentions nothing. -/
def QuerySection.empty : QuerySection := ⟨none, none, none⟩

/-- A section that mentions nothing. -/
def OutputSection.empty : OutputSection := ⟨none⟩

/-- A file that mentions nothing. -/
def ConfigFile.empty : ConfigFile := ⟨none, none, []⟩

/-- The settings of both sections, those of the second one first. -/
def QuerySection.merge (lower upper : QuerySection) : QuerySection :=
  { defaultPageSize := upper.defaultPageSize.or lower.defaultPageSize
    maxPageSize := upper.maxPageSize.or lower.maxPageSize
    maxFilters := upper.maxFilters.or lower.maxFilters }

/-- The settings of both sections, those of the second one first. -/
def OutputSection.merge (lower upper : OutputSection) : OutputSection :=
  ⟨upper.pretty.or lower.pretty⟩

/-- The settings of both files, those of the second one first; extra members are the first one's. -/
def ConfigFile.merge (lower upper : ConfigFile) : ConfigFile :=
  -- a section that is absent above leaves the one below, and one that is there fills it up
  { query := match upper.query with
      | none => lower.query
      | some q => some ((lower.query.getD .empty).merge q)
    output := match upper.output with
      | none => lower.output
      | some o => some ((lower.output.getD .empty).merge o)
    extra := lower.extra }

/-! ## Resolved settings -/

/-- What the command line and the environment set. -/
structure Overrides where
  config : Option String
  defaultPageSize : Option Nat
  maxPageSize : Option Nat
  maxFilters : Option Nat
deriving DecidableEq, Repr

/-- Overrides that set nothing. -/
def Overrides.none : Overrides := ⟨.none, .none, .none, .none⟩

/-- The settings of both, those of the second one first. -/
def Overrides.merge (lower upper : Overrides) : Overrides :=
  { config := upper.config.or lower.config
    defaultPageSize := upper.defaultPageSize.or lower.defaultPageSize
    maxPageSize := upper.maxPageSize.or lower.maxPageSize
    maxFilters := upper.maxFilters.or lower.maxFilters }

/-- The limits on requests. -/
structure Limits where
  defaultPageSize : Nat
  maxPageSize : Nat
  maxFilters : Nat
deriving DecidableEq, Repr

/-- What a run works with once all layers have been looked at. -/
structure Settings where
  limits : Limits
  pretty : Bool
deriving DecidableEq, Repr

/-- The limits that hold where no layer mentions them. -/
def Limits.default : Limits := ⟨50, 500, 50⟩

/-- The settings that hold where no layer mentions them. -/
def Settings.default : Settings := ⟨.default, false⟩

/-- The first of override, file and default, setting by setting. -/
def Settings.resolve (file : ConfigFile) (overrides : Overrides) : Settings :=
  let query := file.query.getD .empty
  let output := file.output.getD .empty
  { limits :=
      { defaultPageSize :=
          (overrides.defaultPageSize.or query.defaultPageSize).getD Limits.default.defaultPageSize
        maxPageSize := (overrides.maxPageSize.or query.maxPageSize).getD Limits.default.maxPageSize
        maxFilters := (overrides.maxFilters.or query.maxFilters).getD Limits.default.maxFilters }
    pretty := output.pretty.getD Settings.default.pretty }

/-! ## Validity -/

/-- Why settings cannot be used. -/
inductive InvalidSettings where
  | noDefaultPage
  | noLargestPage
  | defaultAboveLargest (default largest : Nat)
deriving DecidableEq, Repr

/-- The message, which names settings as a file does, wherever the value came from. -/
def InvalidSettings.message : InvalidSettings → String
  | noDefaultPage => "Configuration error: query.default_page_size must be greater than 0"
  | noLargestPage => "Configuration error: query.max_page_size must be greater than 0"
  | defaultAboveLargest default largest =>
    "Configuration error: query.default_page_size (" ++ Text.writeNat default ++
      ") cannot exceed query.max_page_size (" ++ Text.writeNat largest ++ ")"

/-- The settings if they can be used. -/
def Settings.validate (s : Settings) : Except InvalidSettings Settings :=
  -- three checks in this order, so that settings with several faults have one message
  if s.limits.defaultPageSize = 0 then .error .noDefaultPage
  else if s.limits.maxPageSize = 0 then .error .noLargestPage
  else if s.limits.maxPageSize < s.limits.defaultPageSize then
    .error (.defaultAboveLargest s.limits.defaultPageSize s.limits.maxPageSize)
  else .ok s

/-- Validation changes nothing, and the settings that pass are those with `0 < default ≤ largest`; the
    largest page is then positive of itself. -/
theorem Settings.validate_eq_ok_iff {s t : Settings} :
    s.validate = .ok t ↔
      t = s ∧ 0 < s.limits.defaultPageSize ∧ s.limits.defaultPageSize ≤ s.limits.maxPageSize := by
  unfold validate
  split
  · simp; omega
  · split
    · simp; omega
    · split
      · simp; omega
      · simp only [Except.ok.injEq]
        constructor
        · rintro rfl; exact ⟨rfl, by omega, by omega⟩
        · rintro ⟨rfl, _, _⟩; rfl

end TraceQuery
