/-
  Names that templates give under the keys of filters.

  Under a key a name of a template is bound to the key, an underscore and the name in lower case.  A name may
  hold underscores and digits itself, so it may continue one key into another one: under the key of a column
  `c` at position 0 the name `A_1` is bound to the key of a column `c_0_a` at position 1.

  1. **Overlap** (`continues_of_overlap`): where two names under different keys are one, the shorter key is
     continued by the suffix behind it, which holds an underscore, the position of the longer one and all that
     stands behind that.
  2. **Clashes** (`exists_overlap`): any name of this shape does continue some key into another one.  So two
     names may be used for any columns and positions exactly if they do not clash (`Clash`,
     `apart_iff_not_clash`).
  3. **Plain names** (`not_clash_of_plain`): names without an underscore, as the library's own, clash with none
     of their kind.

  Mathlib-free.
-/
import TraceQuery.Proofs.Sql.Templates

namespace TraceQuery

open TraceQuery.Sql

/-! ## Overlaps -/

/-- A text with an underscore in it, behind that the digits of a number, and behind them a rest. -/
def Continues (text rest : String) : Prop :=
  ∃ before i, text = before ++ "_" ++ Text.writeNat i ++ rest

/-- Nothing, or a text behind an underscore. -/
def IsSuffix (s : String) : Prop := s = "" ∨ ∃ t, s = "_" ++ t

section

variable {group group' column column' s t : String} {i j : Nat}

/-- What a suffix begins with, if it is not nothing. -/
theorem IsSuffix.front (h : IsSuffix s) {x z : List Char} (hx : x ≠ []) (split : s.toList = x ++ z) :
    ∃ y, x = '_' :: y := by
  cases x with
  | nil => exact absurd rfl hx
  | cons c y =>
    rcases h with rfl | ⟨u, rfl⟩
    · cases split
    · rw [String.toList_append] at split
      have split : '_' :: u.toList = c :: (y ++ z) := split
      exact ⟨y, by rw [(List.cons.inj split).1]⟩

/-- What a key goes on with up to the end of another key holds that key's position. -/
theorem position_of_longer {x : List Char} (hx : ∃ y, x = '_' :: y)
    (h : (parameterKey group column j).toList = (parameterKey group' column' i).toList ++ x) :
    ∃ before, x = before ++ '_' :: (Text.writeNat j).toList := by
  obtain ⟨y, rfl⟩ := hx
  have noDigit : '_' ∉ (Text.writeNat j).toList := fun mem =>
    absurd (isDigit_writeNat j '_' mem) (by decide)
  have parts : (group ++ "_" ++ nameSafe column).toList ++ '_' :: (Text.writeNat j).toList
      = (parameterKey group' column' i).toList ++ '_' :: y := by
    rw [← h]
    simp [parameterKey]
  -- the last underscore of the longer key does not stand in front of the one that goes on
  rcases List.append_eq_append_iff.mp parts with ⟨cs, _, rest⟩ | ⟨cs, _, rest⟩
  · cases cs with
    | nil => exact ⟨[], rest.symm⟩
    | cons c cs =>
      rw [List.cons_append, List.cons.injEq] at rest
      exact absurd (rest.2 ▸ by simp) noDigit
  · exact ⟨cs, rest⟩

/-- The suffix of the shorter key goes on with the position of the longer one and its suffix. -/
theorem continues_of_longer (hs : IsSuffix s) (apart : i ≠ j) {x : List Char}
    (longer : (parameterKey group' column' j).toList = (parameterKey group column i).toList ++ x)
    (split : s.toList = x ++ t.toList) : Continues s t := by
  have goesOn : x ≠ [] := by
    rintro rfl
    rw [List.append_nil] at longer
    exact absurd (NamedUnder.position_of_eq (String.toList_inj.mp longer)).symm apart
  obtain ⟨before, rfl⟩ := position_of_longer (hs.front goesOn split) longer
  refine ⟨String.ofList before, j, String.toList_inj.mp ?_⟩
  rw [split]
  simp

/-- Where the keys of two positions have one name in common, one of the two suffixes holds the position of
    the other key and the other suffix. -/
theorem continues_of_overlap (hs : IsSuffix s) (ht : IsSuffix t) (apart : i ≠ j)
    (h : parameterKey group column i ++ s = parameterKey group' column' j ++ t) :
    Continues s t ∨ Continues t s := by
  have chars := congrArg String.toList h
  rw [String.toList_append, String.toList_append] at chars
  -- one of the two keys is at least as long as the other, and goes on with a part of its suffix
  rcases List.append_eq_append_iff.mp chars with ⟨x, longer, split⟩ | ⟨x, longer, split⟩
  · exact .inl (continues_of_longer hs apart longer split)
  · exact .inr (continues_of_longer ht apart.symm longer split)

end

/-- A column of such characters is its own part of the key. -/
theorem nameSafe_of_isNameChar {column : String} (h : column.toList.all isNameChar = true) :
    nameSafe column = column := by
  apply String.toList_inj.mp
  rw [nameSafe, String.toList_map]
  refine (List.map_congr_left (g := id) fun c hc => ?_).trans (List.map_id _)
  exact if_pos (List.all_eq_true.mp h c hc)

/-- Any text of this shape that can be part of a name continues a key of a group into another one. -/
theorem exists_overlap {text rest : String} (h : Continues text rest)
    (chars : text.toList.all isNameChar = true) (group : String) :
    ∃ column column' i j, i ≠ j ∧
      parameterKey group column i ++ "_" ++ text = parameterKey group column' j ++ rest := by
  obtain ⟨before, j, rfl⟩ := h
  -- the column of the longer key holds the position of the shorter one and what stands in front of its own
  have safe : nameSafe ("_" ++ Text.writeNat (j + 1) ++ "_" ++ before)
      = "_" ++ Text.writeNat (j + 1) ++ "_" ++ before := by
    have digits : (Text.writeNat (j + 1)).toList.all isNameChar = true :=
      List.all_eq_true.mpr fun c hc => isNameChar_of_isDigit (isDigit_writeNat (j + 1) c hc)
    refine nameSafe_of_isNameChar ?_
    simp only [String.toList_append, List.all_append, Bool.and_eq_true] at chars ⊢
    exact ⟨⟨⟨by decide, digits⟩, by decide⟩, chars.1.1.1⟩
  refine ⟨"", "_" ++ Text.writeNat (j + 1) ++ "_" ++ before, j + 1, j, Nat.succ_ne_self j, ?_⟩
  have empty : nameSafe "" = "" := nameSafe_of_isNameChar rfl
  rw [parameterKey, parameterKey, safe, empty]
  simp only [String.append_assoc, String.empty_append]

/-! ## Names in lower case -/

/-- A name in lower case is still a name. -/
theorem isName_lowercase {name : String} (h : isName name.toList = true) :
    isName (Text.lowercase name).toList = true := by
  have chars := isNameChar_of_isName h
  rw [Text.lowercase, String.toList_ofList,
    Text.lowerFrom_eq_map fun c hc => (isNameChar_toLower (chars c hc)).1]
  cases cs : name.toList with
  | nil =>
    rw [cs] at h
    cases h
  | cons c rest =>
    rw [cs] at h chars
    -- letters stay letters; there are few enough characters to look at each
    have first : ∀ n < 0x80, (isAsciiLetter (Char.ofNat n) || Char.ofNat n == '_') = true →
        (isAsciiLetter (Char.ofNat n).toLower || (Char.ofNat n).toLower == '_') = true := by
      decide
    have lower := first c.toNat (isNameChar_toLower (chars c List.mem_cons_self)).1
    rw [Char.ofNat_toNat] at lower
    rw [isName, Bool.and_eq_true] at h
    rw [List.map_cons, isName, Bool.and_eq_true, List.all_map, List.all_eq_true]
    exact ⟨lower h.1, fun d hd => (isNameChar_toLower (chars d (List.mem_cons_of_mem c hd))).2⟩

/-- A name does not begin with a position. -/
theorem not_isName_of_writeNat (i : Nat) (cs : List Char) :
    isName ((Text.writeNat i).toList ++ cs) = false := by
  cases number : (Text.writeNat i).toList with
  | nil =>
    rw [Text.writeNat, String.toList_ofList] at number
    exact absurd number Nat.toDigits_ne_nil
  | cons d ds =>
    have digit : d.isDigit = true := isDigit_writeNat i d (number ▸ List.mem_cons_self)
    have letter : (isAsciiLetter d || d == '_') = false := by
      have ascii : ∀ n < 0x80, (Char.ofNat n).isDigit = true →
          (isAsciiLetter (Char.ofNat n) || Char.ofNat n == '_') = false := by decide
      have other := ascii d.toNat (isNameChar_toLower (isNameChar_of_isDigit digit)).1
      rw [Char.ofNat_toNat] at other
      exact other digit
    rw [List.cons_append, isName, letter, Bool.false_and]

/-- What continues a key behind an underscore has another underscore of its own. -/
theorem continues_of_behind {name rest : String} (h : isName name.toList = true)
    (behind : Continues ("_" ++ name) rest) : Continues name rest := by
  obtain ⟨before, i, split⟩ := behind
  have chars : '_' :: name.toList
      = before.toList ++ '_' :: ((Text.writeNat i).toList ++ rest.toList) := by
    have := congrArg String.toList split
    simpa using this
  -- if the underscore in front were the one before the position, the name would begin with digits
  cases front : before.toList with
  | nil =>
    rw [front] at chars
    rw [(List.cons.inj chars).2, not_isName_of_writeNat] at h
    cases h
  | cons c cs =>
    rw [front] at chars
    refine ⟨String.ofList cs, i, String.toList_inj.mp ?_⟩
    rw [(List.cons.inj chars).2]
    simp

/-! ## Clashes -/

/-- Under a key, the key itself and some names of templates. -/
def keyedNames (key : String) (names : List String) : List String := key :: names.map (boundName key)

/-- One of the two names continues a key into another key, or into what the other name is bound to there. -/
def Clash (N M : String) : Prop :=
  Continues (Text.lowercase N) "" ∨ Continues (Text.lowercase M) "" ∨
    Continues (Text.lowercase N) ("_" ++ Text.lowercase M) ∨
    Continues (Text.lowercase M) ("_" ++ Text.lowercase N)

/-- Names without an underscore do not clash. -/
theorem not_clash_of_plain {N M : String} (hN : '_' ∉ (Text.lowercase N).toList)
    (hM : '_' ∉ (Text.lowercase M).toList) : ¬Clash N M := by
  have inside {text rest : String} (h : Continues text rest) : '_' ∈ text.toList := by
    obtain ⟨before, i, rfl⟩ := h
    simp
  rintro (h | h | h | h)
  · exact hN (inside h)
  · exact hM (inside h)
  · exact hN (inside h)
  · exact hM (inside h)

/-- The groups of filters. -/
def groups : List String := ["filter", "having"]

/-- All names under a key begin as its group does. -/
theorem head?_keyedNames {group column : String} {i : Nat} {names : List String} {c : Char}
    {cs : List Char} (hg : group.toList = c :: cs) :
    ∀ n ∈ keyedNames (parameterKey group column i) names, n.toList.head? = some c := by
  have key : (parameterKey group column i).toList.head? = some c := by
    simp [parameterKey, hg]
  intro n hn
  rcases List.mem_cons.mp hn with rfl | hn
  · exact key
  · obtain ⟨N, _, rfl⟩ := List.mem_map.mp hn
    simp [boundName, key]

section

variable {group group' column column' N M : String} {i j : Nat}

/-- Names that do not clash are bound to different names at different positions. -/
theorem ne_of_not_clash (hN : isName N.toList = true) (hM : isName M.toList = true) (free : ¬Clash N M)
    (apart : i ≠ j) : ∀ a ∈ keyedNames (parameterKey group column i) [N],
      a ∉ keyedNames (parameterKey group' column' j) [M] := by
  have key (key : String) : key = key ++ "" := String.append_empty.symm
  have bound (key name : String) : boundName key name = key ++ ("_" ++ Text.lowercase name) :=
    String.append_assoc
  have noKey {rest : String} : ¬Continues "" rest := by
    rintro ⟨before, k, split⟩
    have := congrArg String.toList split
    simp at this
  have behind {name rest : String} (h : isName name.toList = true)
      (continues : Continues ("_" ++ Text.lowercase name) rest) : Continues (Text.lowercase name) rest :=
    continues_of_behind (isName_lowercase h) continues
  simp only [keyedNames, List.map_cons, List.map_nil, List.mem_cons, List.not_mem_nil, or_false]
  -- two keys, a key and a bound name, a bound name and a key, two bound names
  rintro a (rfl | rfl) (same | same)
  · exact apart (NamedUnder.position_of_eq same)
  · rw [bound, key (parameterKey group column i)] at same
    rcases continues_of_overlap (.inl rfl) (.inr ⟨_, rfl⟩) apart same with h | h
    · exact noKey h
    · exact free (.inr (.inl (behind hM h)))
  · rw [bound, key (parameterKey group' column' j)] at same
    rcases continues_of_overlap (.inr ⟨_, rfl⟩) (.inl rfl) apart same with h | h
    · exact free (.inl (behind hN h))
    · exact noKey h
  · rw [bound, bound] at same
    rcases continues_of_overlap (.inr ⟨_, rfl⟩) (.inr ⟨_, rfl⟩) apart same with h | h
    · exact free (.inr (.inr (.inl (behind hN h))))
    · exact free (.inr (.inr (.inr (behind hM h))))

/-- The names of two groups begin with different letters. -/
theorem ne_of_groups (hg : group ∈ groups) (hg' : group' ∈ groups) (apart : group ≠ group')
    {names names' : List String} : ∀ a ∈ keyedNames (parameterKey group column i) names,
      a ∉ keyedNames (parameterKey group' column' j) names' := by
  intro a ha ha'
  have filter {column : String} {i : Nat} {names : List String}
      (h : a ∈ keyedNames (parameterKey "filter" column i) names) : a.toList.head? = some 'f' :=
    head?_keyedNames rfl a h
  have having {column : String} {i : Nat} {names : List String}
      (h : a ∈ keyedNames (parameterKey "having" column i) names) : a.toList.head? = some 'h' :=
    head?_keyedNames rfl a h
  simp only [groups, List.mem_cons, List.not_mem_nil, or_false] at hg hg'
  rcases hg with rfl | rfl <;> rcases hg' with rfl | rfl
  · exact apart rfl
  · exact absurd ((filter ha).symm.trans (having ha')) (by decide)
  · exact absurd ((having ha).symm.trans (filter ha')) (by decide)
  · exact apart rfl

/-- Exactly the names that do not clash can be used for all columns and all positions of both groups. -/
theorem apart_iff_not_clash (hN : isName N.toList = true) (hM : isName M.toList = true) :
    (∀ group ∈ groups, ∀ group' ∈ groups, ∀ column column' i j, (group, i) ≠ (group', j) →
      ∀ a ∈ keyedNames (parameterKey group column i) [N],
        a ∉ keyedNames (parameterKey group' column' j) [M]) ↔ ¬Clash N M := by
  have chars {name : String} (h : isName name.toList = true) :
      (Text.lowercase name).toList.all isNameChar = true :=
    List.all_eq_true.mpr (isNameChar_of_isName (isName_lowercase h))
  have key (key : String) (names : List String) : key ++ "" ∈ keyedNames key names := by
    rw [String.append_empty]
    exact List.mem_cons_self
  have bound (key name : String) : key ++ "_" ++ Text.lowercase name ∈ keyedNames key [name] :=
    List.mem_cons_of_mem _ (List.mem_singleton.mpr rfl)
  -- a clash gives columns and positions where the names meet; without one they never do
  constructor
  · intro all clash
    have filter : "filter" ∈ groups := List.mem_cons_self
    have at_ {c d : String} {i j : Nat} (apart : i ≠ j) :=
      all "filter" filter "filter" filter c d i j fun same => apart (Prod.mk.inj same).2
    rcases clash with h | h | h | h
    · obtain ⟨c, d, i, j, apart, same⟩ := exists_overlap h (chars hN) "filter"
      exact at_ apart _ (bound _ N) (same ▸ key _ _)
    · obtain ⟨c, d, i, j, apart, same⟩ := exists_overlap h (chars hM) "filter"
      exact at_ apart.symm _ (key _ _) (same ▸ bound _ M)
    · obtain ⟨c, d, i, j, apart, same⟩ := exists_overlap h (chars hN) "filter"
      rw [← String.append_assoc] at same
      exact at_ apart _ (bound _ N) (same ▸ bound _ M)
    · obtain ⟨c, d, i, j, apart, same⟩ := exists_overlap h (chars hM) "filter"
      rw [← String.append_assoc] at same
      exact at_ apart.symm _ (bound _ N) (same ▸ bound _ M)
  · intro free group hg group' hg' column column' i j apart
    by_cases positions : i = j
    · refine ne_of_groups hg hg' fun same => apart ?_
      rw [same, positions]
    · exact ne_of_not_clash hN hM free positions

/-- Under the keys of two positions no name is bound twice, if no two names of the template clash. -/
theorem keyedNames_apart {names : List String} (named : ∀ N ∈ names, isName N.toList = true)
    (free : ∀ N ∈ names, ∀ M ∈ names, ¬Clash N M) (hg : group ∈ groups) (hg' : group' ∈ groups)
    (apart : (group, i) ≠ (group', j)) : ∀ a ∈ keyedNames (parameterKey group column i) names,
      a ∉ keyedNames (parameterKey group' column' j) names := by
  -- what clashes is said of two names at a time, so two of the list are enough
  have pair {N M : String} (hN : N ∈ names) (hM : M ∈ names) :=
    (apart_iff_not_clash (named N hN) (named M hM)).mpr (free N hN M hM) group hg group' hg'
      column column' i j apart
  intro a ha ha'
  rcases List.mem_cons.mp ha with key | bound <;> rcases List.mem_cons.mp ha' with key' | bound'
  · by_cases positions : i = j
    · refine ne_of_groups hg hg' (fun same => apart ?_) a ha ha'
      rw [same, positions]
    · exact positions (NamedUnder.position_of_eq (key.symm.trans key'))
  · obtain ⟨M, hM, same⟩ := List.mem_map.mp bound'
    exact pair hM hM a (List.mem_cons.mpr (.inl key)) (by simp [keyedNames, same])
  · obtain ⟨N, hN, same⟩ := List.mem_map.mp bound
    exact pair hN hN a (by simp [keyedNames, same]) (List.mem_cons.mpr (.inl key'))
  · obtain ⟨N, hN, same⟩ := List.mem_map.mp bound
    obtain ⟨M, hM, same'⟩ := List.mem_map.mp bound'
    exact pair hN hM a (by simp [keyedNames, same]) (by simp [keyedNames, same'])

end

end TraceQuery
