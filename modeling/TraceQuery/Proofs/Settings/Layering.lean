/-
  The layers of a setting.

  1. **Specification** — each setting by itself is the first of its layers that mentions it: the
     overrides, the files from the last to the first, the default (`Settings.layered`).  A section is no
     layer of its own: a file that has the section and does not mention the setting counts as silent.

  2. **Merging** — what a merged file mentions is what the upper file mentions, else the lower one
     (`ConfigFile.limit?_merge`, `ConfigFile.pretty?_merge`).  Merging is associative, with the extra
     members too (`ConfigFile.merge_assoc`).

  3. **Chains** — a `Merging` is a chain of files together with the order in which its merges are made.
     By induction on it the merged file mentions what the last file of the chain that mentions anything
     does, so only the chain counts (`Merging.resolve_merged`).

  4. **Loading** — with the two files at hand, `Settings.load` gives the settings of the layers if the
     pages are in order, and refuses them otherwise (`Settings.load_layered`).

  Mathlib-free.
-/
import TraceQuery.Settings.Load

namespace TraceQuery

open TraceQuery.Files (FileStatus)

/-! ## Specification: the first layer that mentions a setting -/

/-- The first value that is there, else the default. -/
def firstPresent {α : Type} (layers : List (Option α)) (default : α) : α :=
  (layers.findSome? id).getD default

/-- What a file mentions of the settings of its section on queries. -/
def ConfigFile.limit? (setting : QuerySection → Option Nat) (file : ConfigFile) : Option Nat :=
  file.query.bind setting

/-- What a file mentions of the setting on output. -/
def ConfigFile.pretty? (file : ConfigFile) : Option Bool :=
  file.output.bind OutputSection.pretty

/-- The settings of a chain of files, the last file on top, and of the overrides over them. -/
def Settings.layered (files : List ConfigFile) (overrides : Overrides) : Settings :=
  let mentioned (setting : QuerySection → Option Nat) := files.reverse.map (ConfigFile.limit? setting)
  { limits :=
      { defaultPageSize :=
          firstPresent (overrides.defaultPageSize :: mentioned QuerySection.defaultPageSize) 50
        maxPageSize := firstPresent (overrides.maxPageSize :: mentioned QuerySection.maxPageSize) 500
        maxFilters := firstPresent (overrides.maxFilters :: mentioned QuerySection.maxFilters) 50 }
    pretty := firstPresent (files.reverse.map ConfigFile.pretty?) false }

/-- The top layer is asked first. -/
theorem firstPresent_cons {α : Type} (top : Option α) (layers : List (Option α)) (default : α) :
    firstPresent (top :: layers) default = (top.or (layers.findSome? id)).getD default := by
  cases top <;> rfl

/-! ## Merging -/

/-- Merging is associative, since taking the first value that is there is. -/
theorem QuerySection.merge_assoc (a b c : QuerySection) :
    (a.merge b).merge c = a.merge (b.merge c) := by
  simp only [QuerySection.merge, Option.or_assoc]

theorem QuerySection.empty_merge (a : QuerySection) : QuerySection.empty.merge a = a := by
  simp [QuerySection.merge, QuerySection.empty]

theorem OutputSection.merge_assoc (a b c : OutputSection) :
    (a.merge b).merge c = a.merge (b.merge c) := by
  simp only [OutputSection.merge, Option.or_assoc]

theorem OutputSection.empty_merge (a : OutputSection) : OutputSection.empty.merge a = a := by
  simp [OutputSection.merge, OutputSection.empty]

/-- Whole files merge associatively, also where sections are absent in some of them. -/
theorem ConfigFile.merge_assoc (a b c : ConfigFile) : (a.merge b).merge c = a.merge (b.merge c) := by
  rcases a with ⟨_ | qa, _ | oa, ea⟩ <;> rcases b with ⟨_ | qb, _ | ob, eb⟩ <;>
    rcases c with ⟨_ | qc, _ | oc, ec⟩ <;>
    simp [ConfigFile.merge, QuerySection.merge_assoc, OutputSection.merge_assoc,
      QuerySection.empty_merge, OutputSection.empty_merge]

/-- Holds for each setting of a section that is merged by itself. -/
theorem ConfigFile.limit?_merge {setting : QuerySection → Option Nat}
    (merged : ∀ a b : QuerySection, setting (a.merge b) = (setting b).or (setting a))
    (lower upper : ConfigFile) :
    (lower.merge upper).limit? setting = (upper.limit? setting).or (lower.limit? setting) := by
  -- the section is there or not in each of the two files; only where it is in both are settings compared
  rcases lower with ⟨_ | a, ol, el⟩ <;> rcases upper with ⟨_ | b, ou, eu⟩
  · rfl
  · simp [ConfigFile.limit?, ConfigFile.merge, QuerySection.empty_merge]
  · simp [ConfigFile.limit?, ConfigFile.merge]
  · exact merged a b

/-- The setting on output, whose section has no other. -/
theorem ConfigFile.pretty?_merge (lower upper : ConfigFile) :
    (lower.merge upper).pretty? = upper.pretty?.or lower.pretty? := by
  rcases lower with ⟨ql, _ | a, el⟩ <;> rcases upper with ⟨qu, _ | b, eu⟩
  · rfl
  · simp [ConfigFile.pretty?, ConfigFile.merge, OutputSection.empty_merge]
  · simp [ConfigFile.pretty?, ConfigFile.merge]
  · rfl

/-! ## Chains of files -/

/-- A chain of files, and which of them are merged first. -/
inductive Merging where
  | file (f : ConfigFile)
  | both (lower upper : Merging)

namespace Merging

/-- The chain, from the lowest file to the highest. -/
def files : Merging → List ConfigFile
  | file f => [f]
  | both lower upper => lower.files ++ upper.files

/-- The file that the merges of the chain give. -/
def merged : Merging → ConfigFile
  | file f => f
  | both lower upper => lower.merged.merge upper.merged

/-- A value that merging takes from the upper file if it is there is the last one of the chain. -/
theorem mentioned_merged {α : Type} {mentioned : ConfigFile → Option α}
    (merges : ∀ a b : ConfigFile, mentioned (a.merge b) = (mentioned b).or (mentioned a))
    (m : Merging) : mentioned m.merged = (m.files.reverse.map mentioned).findSome? id := by
  -- on how the chain is put together: two shorter chains, or one file
  induction m with
  | file f => cases h : mentioned f <;> simp [merged, files, h]
  | both lower upper ihl ihu =>
    calc mentioned (lower.merged.merge upper.merged)
        = (mentioned upper.merged).or (mentioned lower.merged) := merges _ _
      _ = ((upper.files.reverse.map mentioned).findSome? id).or
            ((lower.files.reverse.map mentioned).findSome? id) := by rw [ihl, ihu]
      _ = ((lower.files ++ upper.files).reverse.map mentioned).findSome? id := by
        rw [List.reverse_append, List.map_append, List.findSome?_append]

/-- The settings of a merged file are those of the layers, in whatever order the chain was merged. -/
theorem resolve_merged (m : Merging) (overrides : Overrides) :
    Settings.resolve m.merged overrides = Settings.layered m.files overrides := by
  -- an absent section and an empty one mention the same, so the section may be taken to be there
  have limit (setting : QuerySection → Option Nat) (empty : setting .empty = none)
      (merges : ∀ a b : QuerySection, setting (a.merge b) = (setting b).or (setting a)) :
      setting (m.merged.query.getD .empty)
        = (m.files.reverse.map (ConfigFile.limit? setting)).findSome? id := by
    rw [← mentioned_merged (ConfigFile.limit?_merge merges) m]
    cases h : m.merged.query <;> simp [ConfigFile.limit?, h, empty]
  have pretty : (m.merged.output.getD .empty).pretty
      = (m.files.reverse.map ConfigFile.pretty?).findSome? id := by
    rw [← mentioned_merged ConfigFile.pretty?_merge m]
    cases h : m.merged.output <;> simp [ConfigFile.pretty?, h, OutputSection.empty]
  simp only [Settings.resolve, Settings.layered, firstPresent_cons, pretty,
    limit QuerySection.defaultPageSize rfl fun _ _ => rfl,
    limit QuerySection.maxPageSize rfl fun _ _ => rfl,
    limit QuerySection.maxFilters rfl fun _ _ => rfl]
  rfl

/-- The merging from left to right, as a fold makes it. -/
def fromLeft (first : ConfigFile) (rest : List ConfigFile) : Merging :=
  rest.foldl (fun m f => both m (file f)) (file first)

/-- A fold merges the files that it is given. -/
theorem files_fromLeft (first : ConfigFile) (rest : List ConfigFile) :
    (fromLeft first rest).files = first :: rest := by
  -- the fold goes on from any merging, not only from the first file
  suffices h : ∀ m : Merging, (rest.foldl (fun m f => both m (file f)) m).files = m.files ++ rest from
    h (file first)
  induction rest with
  | nil => simp
  | cons f rest ih => simp [ih, files]

/-- The result of a fold is what its merging gives. -/
theorem merged_fromLeft (first : ConfigFile) (rest : List ConfigFile) :
    (fromLeft first rest).merged = rest.foldl ConfigFile.merge first := by
  suffices h : ∀ m : Merging, (rest.foldl (fun m f => both m (file f)) m).merged
      = rest.foldl ConfigFile.merge m.merged from h (file first)
  induction rest with
  | nil => simp
  | cons f rest ih => simp [ih, merged]

end Merging

/-! ## Loading -/

/-- The empty file mentions nothing, so it is no layer. -/
theorem Settings.layered_empty (files : List ConfigFile) (overrides : Overrides) :
    Settings.layered (.empty :: files) overrides = Settings.layered files overrides := by
  simp [Settings.layered, firstPresent, List.findSome?_cons, List.findSome?_append,
    ConfigFile.limit?, ConfigFile.pretty?, ConfigFile.empty]

/-- A fold over a chain of files resolves to its layers. -/
theorem Settings.resolve_foldl (files : List ConfigFile) (overrides : Overrides) :
    Settings.resolve (files.foldl ConfigFile.merge .empty) overrides
      = Settings.layered files overrides := by
  rw [← Merging.merged_fromLeft, Merging.resolve_merged, Merging.files_fromLeft, layered_empty]

/-- The two layers of a run as a chain: a file that is not there is left out of it. -/
theorem ConfigFile.ofLayers_eq (profile overlay : Option ConfigFile) :
    ConfigFile.ofLayers profile overlay
      = (profile.toList ++ overlay.toList).foldl ConfigFile.merge .empty := by
  cases profile <;> cases overlay <;> rfl

/-- The settings of a run's two files are their layers, once validated. -/
theorem Settings.ofLayers_eq (profile overlay : Option ConfigFile) (overrides : Overrides) :
    Settings.ofLayers profile overlay overrides
      = (Settings.layered (profile.toList ++ overlay.toList) overrides).validate := by
  rw [Settings.ofLayers, ConfigFile.ofLayers_eq, Settings.resolve_foldl]

/-- With both files at hand, and a named file that is there, loading is resolving and validating. -/
theorem Settings.load_of_layers {surroundings : Surroundings} {overrides : Overrides}
    {profile overlay : FileStatus} {p o : Option ConfigFile}
    (lower : ConfigFile.load? surroundings.profilePath profile = .ok p)
    (upper : ConfigFile.load? (surroundings.overlayPath overrides) overlay = .ok o)
    (named : overrides.config.isSome → overlay.exists) :
    Settings.load surroundings overrides profile overlay
      = ((Settings.layered (p.toList ++ o.toList) overrides).validate).mapError .invalid := by
  -- the one check that loading makes between the two files
  have found : (overrides.config.isSome && !overlay.exists) = false := by
    cases h : overrides.config.isSome
    · rfl
    · rw [named h]; rfl
  rw [← Settings.ofLayers_eq]
  simp only [Settings.load, lower, upper, found, bind, Except.bind]
  cases Settings.ofLayers p o overrides <;> rfl

/-- A run has the settings of its layers.  Both files are at hand: what is found at each of the two places
    can be read, or there is nothing (`lower`, `upper`); and if the run names a file with
    `overrides.config`, then one exists at that path (`named`), as it is an error otherwise.  Then the run
    fails exactly if the pages are not in order, and however a chain of files is merged, the settings are
    those of its layers. -/
theorem Settings.load_layered (surroundings : Surroundings) (overrides : Overrides)
    (profile overlay : FileStatus) (p o : Option ConfigFile)
    (lower : ConfigFile.load? surroundings.profilePath profile = .ok p)
    (upper : ConfigFile.load? (surroundings.overlayPath overrides) overlay = .ok o)
    (named : overrides.config.isSome → overlay.exists) :
    let settings := Settings.layered (p.toList ++ o.toList) overrides
    let inOrder := 0 < settings.limits.defaultPageSize ∧
      settings.limits.defaultPageSize ≤ settings.limits.maxPageSize
    (inOrder → Settings.load surroundings overrides profile overlay = .ok settings) ∧
    (¬ inOrder → ∃ e, Settings.load surroundings overrides profile overlay = .error (.invalid e)) ∧
    (∀ m : Merging, Settings.resolve m.merged overrides = Settings.layered m.files overrides) ∧
    (∀ files : List ConfigFile, Settings.resolve (files.foldl ConfigFile.merge .empty) overrides
      = Settings.layered files overrides) := by
  intro settings inOrder
  have loaded := load_of_layers lower upper named
  refine ⟨fun h => ?_, fun h => ?_, fun m => m.resolve_merged overrides,
    fun files => resolve_foldl files overrides⟩
  · rw [loaded, Settings.validate_eq_ok_iff.mpr ⟨rfl, h⟩]
    rfl
  · rw [loaded]
    cases valid : settings.validate with
    | error e => exact ⟨e, rfl⟩
    | ok t => exact absurd (Settings.validate_eq_ok_iff.mp valid).2 h

/-- The overlay has both sections and mentions one setting, so the profile keeps the others. -/
theorem Settings.load_partial_sections :
    let surroundings : Surroundings := ⟨"/home/a", "/work"⟩
    let overrides : Overrides := ⟨none, none, none, some 7⟩
    let profile : FileStatus := .text
      "\x7b\"query\":\x7b\"max_page_size\":30,\"max_filters\":9\x7d,\"output\":\x7b\"pretty\":true\x7d\x7d"
    let overlay : FileStatus := .text
      "\x7b\"query\":\x7b\"default_page_size\":20,\"max_page_size\":null\x7d,\"output\":\x7b\x7d\x7d"
    Settings.load surroundings overrides profile overlay = .ok ⟨⟨20, 30, 7⟩, true⟩ := by
  have loaded {path text : String} {file : ConfigFile}
      (h : (Json.Document.ofTokens (Json.tokensWithin text.toList.length text.toList)).read
        ConfigFile.ofNode = .ok file) : ConfigFile.load? path (.text text) = .ok (some file) := by
    have parsed : ConfigFile.ofText text = .ok file := by
      rw [ConfigFile.ofText, Json.Document.ofText_of_tokens rfl, h]
    show (ConfigFile.load path (.text text)).map some = _
    simp only [ConfigFile.load, Files.FileStatus.read, parsed]
    rfl
  exact (Settings.load_layered ⟨"/home/a", "/work"⟩ ⟨none, none, none, some 7⟩ _ _
    (some ⟨some ⟨none, some 30, some 9⟩, some ⟨some true⟩, []⟩)
    (some ⟨some ⟨some 20, none, none⟩, some ⟨none⟩, []⟩)
    (loaded rfl) (loaded rfl) (by decide)).1 (by decide)

end TraceQuery
