/-
  The places that the paths of a user stand for.

  1. **Directories** (`Within`): a path leads through a directory if its names begin with the names of the
     directory.  A relative path that is joined to a directory leads through it, however many slashes meet
     there (`routeOf_joinPath`, `within_joinPath`).

  2. **Meanings** (`StandsFor`): five rules say what a path without blanks around it stands for.  Expanding
     obeys them (`standsFor_expandPath`), so what all places have in common is shown rule by rule: they begin
     at the root, and none of them ends in a blank unless the home directory does.  A place is therefore not
     moved when it is expanded again (`expandPath_expandPath`).

  3. **Tildes** (`expandPath_within_home_iff`): a path that is written with a tilde leads through the home
     directory, unless a second slash follows the first one.  What stands behind the tilde and its slash
     begins at the root then, and it replaces the home directory instead of going on from there.

  4. **Runs** (`Host.loadSettings_expand`): a run has the same settings if it names its file by the place that
     the path stands for.

  Mathlib-free.
-/
import TraceQuery.Run

namespace TraceQuery

/-! ## Blanks at the ends -/

namespace Text

variable {cs : List Char}

/-- The last character, if there is one, is no blank. -/
def EndsVisible (cs : List Char) : Prop := ∀ c ∈ cs.getLast?, isBlank c = false

/-- Nothing is dropped from a text that begins with something visible, nor from the empty one. -/
theorem dropBlanks_of_head? (front : ∀ c ∈ cs.head?, isBlank c = false) : dropBlanks cs = cs := by
  cases cs with
  | nil => rfl
  | cons c rest => exact dropBlanks_of_head (front c rfl)

/-- A text with no blank at either end stays as it is. -/
theorem trimChars_of_ends (front : ∀ c ∈ cs.head?, isBlank c = false) (back : EndsVisible cs) :
    trimChars cs = cs := by
  rw [EndsVisible, ← List.head?_reverse] at back
  rw [trimChars, dropBlanks_of_head? front, dropBlanks_of_head? back, List.reverse_reverse]

/-- What trimming leaves does not end in a blank. -/
theorem endsVisible_trimChars (cs : List Char) : EndsVisible (trimChars cs) := by
  intro c last
  have first := List.head?_dropWhile_not isBlank (dropBlanks cs).reverse
  rw [trimChars, List.getLast?_reverse, dropBlanks, Option.mem_def] at last
  rwa [last] at first

/-- The end of a text is the end of its last part. -/
theorem EndsVisible.of_append {front : List Char} (ends : EndsVisible (front ++ cs)) : EndsVisible cs := by
  intro c last
  rw [Option.mem_def] at last
  exact ends c (by rw [List.getLast?_append, last]; rfl)

/-- An empty last part has a visible slash in front of it. -/
theorem EndsVisible.append_slash (ends : EndsVisible cs) (front : List Char) :
    EndsVisible (front ++ '/' :: cs) := by
  intro c last
  rw [List.getLast?_append, List.getLast?_cons, Option.some_or, Option.mem_some] at last
  cases own : cs.getLast? with
  | none =>
    rw [own, Option.getD_none] at last
    rw [← last]
    rfl
  | some d =>
    rw [own, Option.getD_some] at last
    exact ends c (own.trans (congrArg some last))

end Text

namespace Files

open FileTree (routeOf)
open Text (EndsVisible)

/-! ## Directories -/

/-- A path leads through a directory: both begin at the root, and the names of the directory, as they are
    written, are the first names of the path. -/
def Within (directory path : String) : Prop :=
  isAbsolute directory.toList = true ∧ isAbsolute path.toList = true ∧ routeOf directory <+: routeOf path

/-- Whether a path leads through a directory can be computed from the two texts. -/
instance (directory path : String) : Decidable (Within directory path) :=
  inferInstanceAs (Decidable (_ ∧ _ ∧ _))

section

variable {base path : List Char}

/-- The first character of an absolute path. -/
theorem head?_of_isAbsolute (absolute : isAbsolute base = true) : base.head? = some '/' := by
  unfold isAbsolute at absolute
  split at absolute
  · rfl
  · cases absolute

/-- A path has at least one name, if an empty one. -/
theorem splitNames_ne_nil (cs : List Char) : splitNames cs ≠ [] := by
  cases cs with
  | nil => simp [splitNames]
  | cons c rest =>
    rw [splitNames]
    split
    · simp
    · split <;> simp

/-- A slash ends a name, whatever stands before it. -/
theorem splitNames_append_slash (front rest : List Char) :
    splitNames (front ++ '/' :: rest) = splitNames front ++ splitNames rest := by
  -- on what stands before the slash: a slash in it begins another name, any other character joins the first
  induction front with
  | nil => simp [splitNames]
  | cons c front ih =>
    by_cases slash : c = '/'
    · simp [splitNames, slash, ih]
    · cases names : splitNames front with
      | nil => exact absurd names (splitNames_ne_nil front)
      | cons name others => simp [splitNames, slash, ih, names]

/-- A relative path stands behind a slash: a new one, or the one that the base ends in. -/
theorem exists_joinChars_eq (rooted : isAbsolute base = true) (relative : isAbsolute path = false) :
    ∃ front, joinChars base path = front ++ '/' :: path ∧ (base = front ∨ base = front ++ ['/']) := by
  have filled : base ≠ [] := by
    rintro rfl
    cases rooted
  rw [joinChars, if_neg (by simp [relative])]
  by_cases slash : base.getLast? = some '/'
  · obtain ⟨front, rfl⟩ := List.getLast?_eq_some_iff.mp slash
    exact ⟨front, by simp, .inr rfl⟩
  · exact ⟨base, by simp [filled, slash], .inl rfl⟩

end

variable {home directory path meant place : String}

theorem joinPath_ofList (base : String) (path : List Char) :
    joinPath base (String.ofList path) = String.ofList (joinChars base.toList path) := by
  rw [joinPath, String.toList_ofList]

/-- An absolute path takes the place of what it is joined to. -/
theorem joinPath_of_isAbsolute (absolute : isAbsolute path.toList = true) (base : String) :
    joinPath base path = path := by
  rw [joinPath, joinChars, if_pos absolute, String.ofList_toList]

/-- Whatever is joined to an absolute directory is absolute. -/
theorem isAbsolute_joinPath (rooted : isAbsolute directory.toList = true) (path : String) :
    isAbsolute (joinPath directory path).toList = true := by
  rw [joinPath, String.toList_ofList]
  exact isAbsolute_joinChars rooted path.toList

/-- The names of a relative path come after those of the directory that it is joined to. -/
theorem routeOf_joinPath (rooted : isAbsolute directory.toList = true)
    (relative : isAbsolute path.toList = false) :
    routeOf (joinPath directory path) = routeOf directory ++ routeOf path := by
  obtain ⟨front, joined, base⟩ := exists_joinChars_eq rooted relative
  have own : routeOf directory = (splitNames front).filter fun name => !name.isEmpty && name != ['.'] := by
    rcases base with same | slash
    · rw [routeOf, same]
    · rw [routeOf, slash, splitNames_append_slash, List.filter_append]
      exact List.append_nil _
  rw [own, routeOf, joinPath, String.toList_ofList, joined, splitNames_append_slash, List.filter_append]
  rfl

theorem Within.refl (rooted : isAbsolute directory.toList = true) : Within directory directory :=
  ⟨rooted, rooted, List.prefix_rfl⟩

/-- A relative path stays in the directory that it is joined to.  Names that go up are names like others
    here: they are looked at when the path is followed, not when it is written. -/
theorem within_joinPath (rooted : isAbsolute directory.toList = true)
    (relative : isAbsolute path.toList = false) : Within directory (joinPath directory path) := by
  refine ⟨rooted, isAbsolute_joinPath rooted path, ?_⟩
  rw [routeOf_joinPath rooted relative]
  exact List.prefix_append _ _

/-- The end of a relative path is the end of the joined one. -/
theorem endsVisible_joinPath (rooted : isAbsolute directory.toList = true)
    (relative : isAbsolute path.toList = false) (ends : EndsVisible path.toList) :
    EndsVisible (joinPath directory path).toList := by
  obtain ⟨front, joined, _⟩ := exists_joinChars_eq rooted relative
  rw [joinPath, String.toList_ofList, joined]
  exact ends.append_slash front

/-! ## Meanings -/

/-- A path is written with a tilde if this is all of it, or if a slash follows. -/
def HasTilde (path : String) : Prop := path = "~" ∨ ∃ rest, path = "~/" ++ rest

/-- What a path without blanks around it stands for. -/
inductive StandsFor (home directory : String) : String → String → Prop where
  /-- The tilde alone is the home directory. -/
  | home : StandsFor home directory "~" home
  /-- What follows the tilde and its slash is a relative path. -/
  | inHome {rest : String} (relative : isAbsolute rest.toList = false) :
    StandsFor home directory ("~/" ++ rest) (joinPath home rest)
  /-- A second slash begins an absolute path, which is not joined to anything. -/
  | fromRoot {rest : String} (absolute : isAbsolute rest.toList = true) :
    StandsFor home directory ("~/" ++ rest) rest
  /-- An absolute path stands for itself. -/
  | itself {path : String} (absolute : isAbsolute path.toList = true) : StandsFor home directory path path
  /-- Any other path is relative to the working directory. -/
  | inDirectory {path : String} (plain : ¬ HasTilde path) (relative : isAbsolute path.toList = false) :
    StandsFor home directory path (joinPath directory path)

theorem tilde_slash_ofList (rest : List Char) :
    "~/" ++ String.ofList rest = String.ofList ('~' :: '/' :: rest) :=
  (@String.ofList_append ['~', '/'] rest).symm

theorem toList_tilde_slash (rest : String) : ("~/" ++ rest).toList = '~' :: '/' :: rest.toList := by
  rw [String.toList_append]
  rfl

/-- On characters: the path is a tilde, or begins with one and a slash. -/
theorem hasTilde_iff : HasTilde path ↔ path = "~" ∨ ['~', '/'] <+: path.toList := by
  refine or_congr_right ⟨?_, ?_⟩
  · rintro ⟨rest, rfl⟩
    exact ⟨rest.toList, (toList_tilde_slash rest).symm⟩
  · rintro ⟨rest, same⟩
    refine ⟨String.ofList rest, ?_⟩
    rw [tilde_slash_ofList, ← String.toList_inj, String.toList_ofList]
    exact same.symm

/-- Whether a path is written with a tilde is seen at its front. -/
instance (path : String) : Decidable (HasTilde path) := decidable_of_iff _ hasTilde_iff.symm

/-- A tilde is no slash, so such a path is not absolute before it is expanded. -/
theorem isAbsolute_of_hasTilde (tilde : HasTilde path) : isAbsolute path.toList = false := by
  rcases tilde with rfl | ⟨rest, rfl⟩
  · rfl
  · rw [toList_tilde_slash]
    rfl

/-- Expanding obeys the rules. -/
theorem standsFor_expandPath (rooted : isAbsolute home.toList = true) (directory path : String) :
    StandsFor home directory (Text.trim path) (expandPath home directory path) := by
  rw [Text.trim, expandPath, expandChars]
  generalize Text.trimChars path.toList = cs
  -- the three ways a path can begin: as a tilde, as a tilde and a slash, or in any other way
  unfold expandHome
  split
  · rw [if_pos rooted, String.ofList_toList]
    exact .home
  · rename_i rest
    rw [if_pos (isAbsolute_joinChars rooted rest), ← joinPath_ofList, ← tilde_slash_ofList]
    cases absolute : isAbsolute (String.ofList rest).toList with
    | true =>
      rw [joinPath_of_isAbsolute absolute]
      exact .fromRoot absolute
    | false => exact .inHome absolute
  · rename_i alone slash
    cases absolute : isAbsolute cs with
    | true =>
      rw [if_pos rfl]
      exact .itself (by rwa [String.toList_ofList])
    | false =>
      rw [if_neg Bool.false_ne_true, ← joinPath_ofList]
      refine .inDirectory ?_ (by rwa [String.toList_ofList])
      rintro (tilde | ⟨rest, tilde⟩)
      · exact alone (String.ofList_inj.mp tilde)
      · rw [← String.ofList_toList (s := rest), tilde_slash_ofList] at tilde
        exact slash _ (String.ofList_inj.mp tilde)

namespace StandsFor

/-- Every place begins at the root. -/
theorem isAbsolute_place (stands : StandsFor home directory meant place)
    (rooted : isAbsolute home.toList = true) (here : isAbsolute directory.toList = true) :
    isAbsolute place.toList = true := by
  cases stands with
  | home => exact rooted
  | inHome => exact isAbsolute_joinPath rooted _
  | fromRoot absolute | itself absolute => exact absolute
  | inDirectory => exact isAbsolute_joinPath here _

/-- Among the rules, only one is for absolute paths. -/
theorem eq_of_isAbsolute (stands : StandsFor home directory meant place)
    (absolute : isAbsolute meant.toList = true) : place = meant := by
  -- the first three rules are for paths with a tilde, and the last one is for relative ones
  have plain (tilde : HasTilde meant) : False := by
    rw [isAbsolute_of_hasTilde tilde] at absolute
    cases absolute
  cases stands with
  | home => exact (plain (.inl rfl)).elim
  | inHome | fromRoot => exact (plain (.inr ⟨_, rfl⟩)).elim
  | itself => rfl
  | inDirectory _ relative => simp [relative] at absolute

/-- A relative path without a tilde stays in the working directory. -/
theorem within_directory (stands : StandsFor home directory meant place)
    (here : isAbsolute directory.toList = true) (plain : ¬ HasTilde meant)
    (relative : isAbsolute meant.toList = false) : Within directory place := by
  cases stands with
  | home => exact absurd (.inl rfl) plain
  | inHome | fromRoot => exact absurd (.inr ⟨_, rfl⟩) plain
  | itself absolute => simp [relative] at absolute
  | inDirectory => exact within_joinPath here relative

/-- Only the home directory can put a blank at the end, where it stands for itself. -/
theorem endsVisible_place (stands : StandsFor home directory meant place)
    (rooted : isAbsolute home.toList = true) (here : isAbsolute directory.toList = true)
    (bare : EndsVisible home.toList) (ends : EndsVisible meant.toList) : EndsVisible place.toList := by
  -- the rest behind a tilde ends where the whole path ends
  have behind {rest : String} (ends : EndsVisible ("~/" ++ rest).toList) : EndsVisible rest.toList := by
    rw [String.toList_append] at ends
    exact ends.of_append
  cases stands with
  | home => exact bare
  | inHome relative => exact endsVisible_joinPath rooted relative (behind ends)
  | fromRoot => exact behind ends
  | itself => exact ends
  | inDirectory _ relative => exact endsVisible_joinPath here relative ends

end StandsFor

/-! ## Expanding again -/

theorem endsVisible_trim (path : String) : EndsVisible (Text.trim path).toList := by
  rw [Text.trim, String.toList_ofList]
  exact Text.endsVisible_trimChars _

/-- An absolute path that does not end in a blank is trimmed already. -/
theorem trim_of_isAbsolute (absolute : isAbsolute path.toList = true) (ends : EndsVisible path.toList) :
    Text.trim path = path := by
  have front : ∀ c ∈ path.toList.head?, Text.isBlank c = false := by
    rw [head?_of_isAbsolute absolute]
    rintro c ⟨⟩
    rfl
  rw [Text.trim, Text.trimChars_of_ends front ends, String.ofList_toList]

/-- A place is not moved.  Blanks around the working directory do no harm, as something visible always comes
    behind them. -/
theorem expandPath_expandPath (rooted : isAbsolute home.toList = true)
    (here : isAbsolute directory.toList = true) (bare : Text.trim home = home) (path : String) :
    expandPath home directory (expandPath home directory path) = expandPath home directory path := by
  have first := standsFor_expandPath rooted directory path
  have absolute := first.isAbsolute_place rooted here
  have ends := first.endsVisible_place rooted here (bare ▸ endsVisible_trim home) (endsVisible_trim path)
  -- Nothing is cut off the place, and among the rules only the one for absolute paths is left.
  have second := standsFor_expandPath rooted directory (expandPath home directory path)
  rw [trim_of_isAbsolute absolute ends] at second
  exact second.eq_of_isAbsolute absolute

/-! ## Tildes -/

/-- What stands behind the tilde and its slash begins at the root, and does not lead through the home
    directory by itself. -/
def LeavesHome (home path : String) : Prop :=
  ∃ rest, path = "~/" ++ rest ∧ isAbsolute rest.toList = true ∧ ¬ Within home rest

/-- The rest behind the tilde and its slash is determined by the path. -/
theorem leavesHome_tilde_slash_iff {rest : String} :
    LeavesHome home ("~/" ++ rest) ↔ isAbsolute rest.toList = true ∧ ¬ Within home rest := by
  constructor
  · rintro ⟨other, same, leaves⟩
    obtain rfl : rest = other := by
      rw [← String.toList_inj, toList_tilde_slash, toList_tilde_slash] at same
      exact String.toList_inj.mp (List.tail_eq_of_cons_eq (List.tail_eq_of_cons_eq same))
    exact leaves
  · exact fun leaves => ⟨rest, rfl, leaves⟩

/-- The tilde alone has no rest. -/
theorem not_leavesHome_tilde : ¬ LeavesHome home "~" := by
  rintro ⟨rest, same, _⟩
  rw [← String.toList_inj, toList_tilde_slash] at same
  cases same

/-- The place of a path with a tilde lies in the home directory, unless the path leaves it. -/
theorem StandsFor.within_home_iff (stands : StandsFor home directory meant place)
    (rooted : isAbsolute home.toList = true) (tilde : HasTilde meant) :
    Within home place ↔ ¬ LeavesHome home meant := by
  cases stands with
  | home => exact iff_of_true (.refl rooted) not_leavesHome_tilde
  | inHome relative =>
    refine iff_of_true (within_joinPath rooted relative) fun leaves => ?_
    simp [(leavesHome_tilde_slash_iff.mp leaves).1] at relative
  | fromRoot absolute => simp [leavesHome_tilde_slash_iff, absolute]
  | itself absolute => simp [isAbsolute_of_hasTilde tilde] at absolute
  | inDirectory plain => exact absurd tilde plain

/-- Every path stands for a place below the root.  A path with a tilde leads through the home directory
    exactly if it does not leave it by a second slash; any other relative path leads through the working
    directory; and a place stands for itself. -/
theorem expandPath_within_home_iff (home directory path : String)
    (rooted : isAbsolute home.toList = true) (here : isAbsolute directory.toList = true) :
    let meant := Text.trim path
    let place := expandPath home directory path
    isAbsolute place.toList = true ∧
    (HasTilde meant → (Within home place ↔ ¬ LeavesHome home meant)) ∧
    (¬ HasTilde meant → isAbsolute meant.toList = false → Within directory place) ∧
    (Text.trim home = home → expandPath home directory place = place) := by
  intro meant place
  have stands : StandsFor home directory meant place := standsFor_expandPath rooted directory path
  exact ⟨stands.isAbsolute_place rooted here, stands.within_home_iff rooted, stands.within_directory here,
    fun bare => expandPath_expandPath rooted here bare path⟩

/-- Blanks inside, names that are dots, a home directory that ends in a slash, and a tilde that begins a
    name. -/
theorem expandPath_within_home_dots :
    let meant := Text.trim "\t~/ b/../c\u3000"
    let place := expandPath "/home/a/" "/work" "\t~/ b/../c\u3000"
    (isAbsolute "/home/a/".toList = true ∧ isAbsolute "/work".toList = true ∧
      Text.trim "/home/a/" = "/home/a/" ∧ HasTilde meant ∧ ¬ LeavesHome "/home/a/" meant ∧
      ¬ HasTilde (Text.trim "~b/c")) ∧
    place = "/home/a/ b/../c" ∧ Within "/home/a/" place ∧ expandPath "/home/a/" "/work" place = place ∧
      Within "/work" (expandPath "/home/a/" "/work" "~b/c") := by
  have behind : Text.trim "\t~/ b/../c\u3000" = "~/" ++ " b/../c" := by decide
  have stays : ¬ LeavesHome "/home/a/" (Text.trim "\t~/ b/../c\u3000") := by
    rw [behind, leavesHome_tilde_slash_iff]
    decide
  have bare : Text.trim "/home/a/" = "/home/a/" := by decide
  have plain : ¬ HasTilde (Text.trim "~b/c") := by decide
  obtain ⟨_, tilde, _, again⟩ :=
    expandPath_within_home_iff "/home/a/" "/work" "\t~/ b/../c\u3000" rfl rfl
  obtain ⟨_, _, relative, _⟩ := expandPath_within_home_iff "/home/a/" "/work" "~b/c" rfl rfl
  have slash : HasTilde (Text.trim "\t~/ b/../c\u3000") := .inr ⟨_, behind⟩
  exact ⟨⟨rfl, rfl, bare, slash, stays, plain⟩, by decide, (tilde slash).mpr stays, again bare,
    relative plain (by decide)⟩

/-- The tilde is gone, and the home directory with it. -/
theorem expandPath_not_within_home :
    isAbsolute "/home/a".toList = true ∧ isAbsolute "/work".toList = true ∧ HasTilde (Text.trim "~//x") ∧
      expandPath "/home/a" "/work" "~//x" = "/x" ∧
      ¬ Within "/home/a" (expandPath "/home/a" "/work" "~//x") := by
  decide

end Files

/-! ## Runs -/

/-- Naming a file by the place that its path stands for changes nothing in what a run reads or answers. -/
theorem Host.loadSettings_expand {m : Type → Type} [Monad m] (host : Host m)
    (rooted : Files.isAbsolute host.surroundings.home.toList = true)
    (here : Files.isAbsolute host.surroundings.directory.toList = true)
    (bare : Text.trim host.surroundings.home = host.surroundings.home) (overrides : Overrides)
    (path : String) :
    host.loadSettings { overrides with config := some (host.surroundings.expand path) }
      = host.loadSettings { overrides with config := some path } := by
  have same : host.surroundings.expand (host.surroundings.expand path) = host.surroundings.expand path :=
    Files.expandPath_expandPath rooted here bare path
  simp only [loadSettings, Settings.load, Surroundings.overlayPath, same]
  rfl

end TraceQuery
