/-
  Documents and their texts.

  1. **Tokens of a node** (`Node.tokens`): what a complete node is written with.  Of two neighbours one
     is always a sign, so that any blanks may stand between them and none have to (`isChain_tokens`).
  2. **Parsing** (`parseFrom_tokens`): the tokens of a node take the parser from where a value may come to
     where that node is complete, whatever is open and whatever follows.
  3. **Nothing else** is parsed (`tokens_of_parseFrom`): what the parser holds, written with its tokens, is
     what it has taken in (`Progress.tokens`).  A step adds the token that it takes (`tokens_of_step`),
     and a document that is cut short is not complete.
  4. **Texts** (`Written`): a text is written for a node if it spells the node's tokens.  Such a text is
     read as the node and nothing else (`ofText_of_written`), and a text that is read as a complete node
     is written for it (`written_of_ofText`).
-/
import TraceQuery.Json.Node
import TraceQuery.Proofs.Json.Spelling

namespace TraceQuery.Json

/-! ## Tokens of a node -/

/-- The token of a key. -/
def Node.keyToken : Node → Token
  | .scalar (.string s) => .scalar (.string s)
  | .unreadable => .unreadable
  | _ => .fault

mutual

/-- The tokens of a node; where it is cut short there is a fault. -/
def Node.tokens : Node → List Token
  | .fault => [.fault]
  | .unreadable => [.unreadable]
  | .scalar s => [.scalar s]
  | .array items true => .openBracket :: (itemTokens items ++ [.closeBracket])
  | .array _ false => [.fault]
  | .object members true => .openBrace :: (memberTokens members ++ [.closeBrace])
  | .object _ false => [.fault]

/-- The tokens of the items of an array, with a comma in front of each but the first. -/
def itemTokens : List Node → List Token
  | [] => []
  | n :: rest => n.tokens ++ moreItems rest

/-- Items after the first one. -/
def moreItems : List Node → List Token
  | [] => []
  | n :: rest => .comma :: (n.tokens ++ moreItems rest)

/-- The tokens of the members of an object, with a comma in front of each but the first. -/
def memberTokens : List (Node × Node) → List Token
  | [] => []
  | (k, n) :: rest => k.keyToken :: .colon :: (n.tokens ++ moreMembers rest)

/-- Members after the first one. -/
def moreMembers : List (Node × Node) → List Token
  | [] => []
  | (k, n) :: rest => .comma :: k.keyToken :: .colon :: (n.tokens ++ moreMembers rest)

end

/-! ## Neighbours -/

section Neighbours

variable {t : Token} {ts us : List Token}

/-- A sign in front parts nothing. -/
theorem isChain_cons_sign (sign : t.isSign = true) :
    (t :: us).IsChain Apart ↔ us.IsChain Apart := by
  cases us with
  | nil => simp
  | cons u us => simp [List.isChain_cons_cons, Apart, sign]

/-- A sign between two rows keeps them apart whatever they end or begin with. -/
theorem isChain_append_sign (sign : t.isSign = true) :
    (ts ++ t :: us).IsChain Apart ↔ ts.IsChain Apart ∧ us.IsChain Apart := by
  rw [List.isChain_append, isChain_cons_sign sign]
  refine ⟨fun h => ⟨h.1, h.2.1⟩, fun h => ⟨h.1, h.2, fun x _ y hy => ?_⟩⟩
  rw [← Option.some.inj hy]
  exact .inr sign

/-- A token before a sign. -/
theorem isChain_cons_cons_sign {u : Token} (sign : u.isSign = true) :
    (t :: u :: us).IsChain Apart ↔ us.IsChain Apart := by
  show ([t] ++ u :: us).IsChain Apart ↔ _
  rw [isChain_append_sign sign]
  simp

end Neighbours

mutual

/-- Of two neighbours one is a sign. -/
theorem isChain_tokens : (n : Node) → n.tokens.IsChain Apart
  | .fault => by simp [Node.tokens]
  | .unreadable => by simp [Node.tokens]
  | .scalar s => by simp [Node.tokens]
  | .array items true => by
    have inside : (itemTokens items ++ [Token.closeBracket]).IsChain Apart :=
      isChain_itemTokens items rfl (by simp)
    rwa [Node.tokens, isChain_cons_sign rfl]
  | .array _ false => by simp [Node.tokens]
  | .object members true => by
    have inside : (memberTokens members ++ [Token.closeBrace]).IsChain Apart :=
      isChain_memberTokens members rfl (by simp)
    rwa [Node.tokens, isChain_cons_sign rfl]
  | .object _ false => by simp [Node.tokens]

/-- Items have a sign behind the last of them, and signs between them. -/
theorem isChain_itemTokens : (items : List Node) → ∀ {t us}, t.isSign = true → us.IsChain Apart →
    (itemTokens items ++ t :: us).IsChain Apart
  | [], t, us, sign, chain => by simpa [itemTokens, isChain_cons_sign sign] using chain
  | n :: rest, t, us, sign, chain => by
    rw [itemTokens]
    exact isChain_moreItems rest n.tokens (isChain_tokens n) sign chain

/-- The same for the items after the first; what stands in front of them may end in a scalar, as a comma
    follows. -/
theorem isChain_moreItems : (rest : List Node) → ∀ ts, ts.IsChain Apart → ∀ {t us}, t.isSign = true →
    us.IsChain Apart → (ts ++ moreItems rest ++ t :: us).IsChain Apart
  | [], ts, front, t, us, sign, chain => by
    rw [moreItems, List.append_nil, isChain_append_sign sign]
    exact ⟨front, chain⟩
  -- the comma parts the row in two: what stands in front, and this item with those behind it
  | n :: rest, ts, front, t, us, sign, chain => by
    rw [moreItems, List.append_assoc, List.cons_append, isChain_append_sign rfl]
    exact ⟨front, isChain_moreItems rest n.tokens (isChain_tokens n) sign chain⟩

/-- Members have colons and commas around each value. -/
theorem isChain_memberTokens : (members : List (Node × Node)) → ∀ {t us}, t.isSign = true →
    us.IsChain Apart → (memberTokens members ++ t :: us).IsChain Apart
  | [], t, us, sign, chain => by simpa [memberTokens, isChain_cons_sign sign] using chain
  | (k, n) :: rest, t, us, sign, chain => by
    rw [memberTokens, List.cons_append, List.cons_append, isChain_cons_cons_sign rfl]
    exact isChain_moreMembers rest n.tokens (isChain_tokens n) sign chain

/-- The same for the members after the first one. -/
theorem isChain_moreMembers : (rest : List (Node × Node)) → ∀ ts, ts.IsChain Apart → ∀ {t us},
    t.isSign = true → us.IsChain Apart → (ts ++ moreMembers rest ++ t :: us).IsChain Apart
  | [], ts, front, t, us, sign, chain => by
    rw [moreMembers, List.append_nil, isChain_append_sign sign]
    exact ⟨front, chain⟩
  | (k, n) :: rest, ts, front, t, us, sign, chain => by
    rw [moreMembers, List.append_assoc, List.cons_append, isChain_append_sign rfl, List.cons_append,
      List.cons_append, isChain_cons_cons_sign rfl]
    exact ⟨front, isChain_moreMembers rest n.tokens (isChain_tokens n) sign chain⟩

end

/-! ## Parsing what is written -/

section Parsing

variable {done : List Node} {members : List (Node × Node)} {stack : List Frame} {ts : List Token}

theorem parseFrom_step {t : Token} {place : Place} {p : Progress} (h : step t stack place = .ok p) :
    parseFrom (.open stack place) (t :: ts) = parseFrom p ts := by
  rw [parseFrom, h]

/-- No value begins with the end of an array. -/
theorem head_tokens (n : Node) : ∃ t ts, n.tokens = t :: ts ∧ t ≠ .closeBracket := by
  unfold Node.tokens
  split <;> exact ⟨_, _, rfl, by simp⟩

/-- A value may be the first item. -/
theorem parseFrom_firstItem (n : Node) :
    parseFrom (.open stack .firstItem) (n.tokens ++ ts) =
      parseFrom (.open stack .value) (n.tokens ++ ts) := by
  obtain ⟨t, us, same, other⟩ := head_tokens n
  rw [same, List.cons_append, parseFrom, parseFrom]
  cases t <;> first | rfl | exact absurd rfl other

/-- A key and its colon lead to the place where the value may come. -/
theorem parseFrom_key {k : Node} (sound : k.keyToken ≠ .fault) {place : Place}
    (here : place = .key ∨ place = .firstKey) :
    parseFrom (.open (.members members :: stack) place) (k.keyToken :: .colon :: ts) =
      parseFrom (.open (.member members k :: stack) .value) ts := by
  have begun : step k.keyToken (.members members :: stack) place =
      .ok (.open (.member members k :: stack) .colon) := by
    -- a key is a string, readable or not; any other node has the token of a fault
    unfold Node.keyToken at sound ⊢
    split at sound
    · rcases here with rfl | rfl <;> rfl
    · rcases here with rfl | rfl <;> rfl
    · exact absurd rfl sound
  rw [parseFrom_step begun, parseFrom_step rfl]

end Parsing

mutual

/-- The tokens of a node take the parser over the node. -/
theorem parseFrom_tokens : (n : Node) → Token.fault ∉ n.tokens → ∀ stack ts,
    parseFrom (.open stack .value) (n.tokens ++ ts) = parseFrom (completed n stack) ts
  | .fault, sound, stack, ts => absurd List.mem_cons_self sound
  | .unreadable, _, stack, ts => rfl
  | .scalar s, _, stack, ts => rfl
  | .array [] true, _, stack, ts => rfl
  -- the array is opened, its first item is complete, and the others follow with the sign that closes it
  | .array (n :: rest) true, sound, stack, ts => by
    simp only [Node.tokens, itemTokens, List.mem_cons, List.mem_append, not_or] at sound
    have begun := parseFrom_tokens n sound.2.1.1 (.items [] :: stack)
    have ended := parseFrom_moreItems rest sound.2.1.2 [n] stack ts
    simp only [Node.tokens, itemTokens, List.cons_append, List.append_assoc, List.nil_append]
    rw [parseFrom_step (p := .open (.items [] :: stack) .firstItem) rfl, parseFrom_firstItem, begun]
    exact ended
  | .array _ false, sound, stack, ts => absurd (by simp [Node.tokens]) sound
  | .object [] true, _, stack, ts => rfl
  | .object ((k, n) :: rest) true, sound, stack, ts => by
    simp only [Node.tokens, memberTokens, List.mem_cons, List.mem_append, not_or] at sound
    have begun := parseFrom_tokens n sound.2.1.2.2.1 (.member [] k :: stack)
    have ended := parseFrom_moreMembers rest sound.2.1.2.2.2 [(k, n)] stack ts
    simp only [Node.tokens, memberTokens, List.cons_append, List.append_assoc, List.nil_append]
    rw [parseFrom_step (p := .open (.members [] :: stack) .firstKey) rfl,
      parseFrom_key (Ne.symm sound.2.1.1) (.inr rfl), begun]
    exact ended
  | .object _ false, sound, stack, ts => absurd (by simp [Node.tokens]) sound

/-- Further items are added to those of the frame, and the closing bracket completes the array. -/
theorem parseFrom_moreItems : (rest : List Node) → Token.fault ∉ moreItems rest → ∀ done stack ts,
    parseFrom (.open (.items done :: stack) .after) (moreItems rest ++ .closeBracket :: ts) =
      parseFrom (completed (.array (done.reverse ++ rest) true) stack) ts
  | [], _, done, stack, ts => by rw [List.append_nil]; rfl
  | n :: rest, sound, done, stack, ts => by
    simp only [moreItems, List.mem_cons, List.mem_append, not_or] at sound
    have begun := parseFrom_tokens n sound.2.1 (.items done :: stack)
    have ended := parseFrom_moreItems rest sound.2.2 (n :: done) stack ts
    rw [List.reverse_cons, List.append_assoc, List.singleton_append] at ended
    rw [moreItems, List.cons_append, List.append_assoc,
      parseFrom_step (p := .open (.items done :: stack) .value) rfl, begun]
    exact ended

/-- Further members are added to those of the frame, and the closing brace completes the object. -/
theorem parseFrom_moreMembers : (rest : List (Node × Node)) → Token.fault ∉ moreMembers rest →
    ∀ done stack ts,
    parseFrom (.open (.members done :: stack) .after) (moreMembers rest ++ .closeBrace :: ts) =
      parseFrom (completed (.object (done.reverse ++ rest) true) stack) ts
  | [], _, done, stack, ts => by rw [List.append_nil]; rfl
  | (k, n) :: rest, sound, done, stack, ts => by
    simp only [moreMembers, List.mem_cons, List.mem_append, not_or] at sound
    have begun := parseFrom_tokens n sound.2.2.2.1 (.member done k :: stack)
    have ended := parseFrom_moreMembers rest sound.2.2.2.2 ((k, n) :: done) stack ts
    rw [List.reverse_cons, List.append_assoc, List.singleton_append] at ended
    rw [moreMembers, List.cons_append, List.cons_append, List.cons_append, List.append_assoc,
      parseFrom_step (p := .open (.members done :: stack) .key) rfl,
      parseFrom_key (Ne.symm sound.2.1) (.inl rfl), begun]
    exact ended

end

/-! ## What the parser holds -/

/-- Items with a comma behind each, of which the last one comes first. -/
def itemsBefore : List Node → List Token
  | [] => []
  | n :: done => itemsBefore done ++ n.tokens ++ [.comma]

/-- Members with a comma behind each, of which the last one comes first. -/
def membersBefore : List (Node × Node) → List Token
  | [] => []
  | (k, n) :: done => membersBefore done ++ k.keyToken :: .colon :: n.tokens ++ [.comma]

/-- The tokens in front of the next item, member or value. -/
def tokensBefore : List Frame → List Token
  | [] => []
  | .items done :: stack => tokensBefore stack ++ .openBracket :: itemsBefore done
  | .members done :: stack => tokensBefore stack ++ .openBrace :: membersBefore done
  | .member done k :: stack =>
    tokensBefore stack ++ .openBrace :: (membersBefore done ++ [k.keyToken, .colon])

/-- The tokens that the parser has taken in; the last separator may be still to come. -/
def Progress.tokens : Progress → List Token
  | .open stack .after => (tokensBefore stack).dropLast
  | .open stack .colon => (tokensBefore stack).dropLast
  | .open stack _ => tokensBefore stack
  | .done root => root.tokens

/-- A frame in which a value may come next. -/
def Frame.TakesValue : Frame → Prop
  | .items _ => True
  | .members _ => False
  | .member _ _ => True

/-- A stack of frames in each of which a value may come next. -/
def Nested (stack : List Frame) : Prop := ∀ f ∈ stack, f.TakesValue

/-- The stacks with which the parser comes to a place. -/
def Place.Fits : Place → List Frame → Prop
  | .value, stack => Nested stack
  | .firstItem, .items [] :: stack => Nested stack
  | .key, .members _ :: stack => Nested stack
  | .firstKey, .members [] :: stack => Nested stack
  | .colon, .member _ _ :: stack => Nested stack
  | .after, .items (_ :: _) :: stack => Nested stack
  | .after, .members (_ :: _) :: stack => Nested stack
  | _, _ => False

/-- A progress that the parser can come to. -/
def Progress.Fits : Progress → Prop
  | .open stack place => place.Fits stack
  | .done _ => True

/-- A value may come next in one frame more. -/
theorem Nested.cons {f : Frame} {stack : List Frame} (takes : f.TakesValue) (h : Nested stack) :
    Nested (f :: stack) := by
  intro g hg
  rcases List.mem_cons.mp hg with rfl | hg
  · exact takes
  · exact h g hg

section Before

variable (stack : List Frame) (done : List Node) (members : List (Node × Node)) (k n : Node)

/-- One item more adds its tokens and a comma, which may be still to come. -/
theorem tokensBefore_item : tokensBefore (.items (n :: done) :: stack) =
    tokensBefore (.items done :: stack) ++ n.tokens ++ [.comma] := by
  simp [tokensBefore, itemsBefore]

theorem tokensBefore_member : tokensBefore (.members ((k, n) :: members) :: stack) =
    tokensBefore (.member members k :: stack) ++ n.tokens ++ [.comma] := by
  simp [tokensBefore, membersBefore]

theorem tokensBefore_key : tokensBefore (.member members k :: stack) =
    tokensBefore (.members members :: stack) ++ [k.keyToken] ++ [.colon] := by
  simp [tokensBefore]

theorem moreItems_append (xs ys : List Node) : moreItems (xs ++ ys) = moreItems xs ++ moreItems ys := by
  induction xs with
  | nil => rfl
  | cons x xs ih => simp [moreItems, ih]

theorem moreMembers_append (xs ys : List (Node × Node)) :
    moreMembers (xs ++ ys) = moreMembers xs ++ moreMembers ys := by
  induction xs with
  | nil => rfl
  | cons x xs ih => simp [moreMembers, ih]

/-- A last item is written behind a comma. -/
theorem itemTokens_concat {done : List Node} (some : done ≠ []) :
    itemTokens (done ++ [n]) = itemTokens done ++ .comma :: n.tokens := by
  cases done with
  | nil => exact absurd rfl some
  | cons m done => simp [itemTokens, moreItems, moreItems_append]

/-- A last member is written behind a comma. -/
theorem memberTokens_concat {members : List (Node × Node)} (some : members ≠ []) :
    memberTokens (members ++ [(k, n)]) =
      memberTokens members ++ .comma :: k.keyToken :: .colon :: n.tokens := by
  cases members with
  | nil => exact absurd rfl some
  | cons m members => simp [memberTokens, moreMembers, moreMembers_append]

/-- The commas may be counted to the items before them or to those behind. -/
theorem itemTokens_reverse : itemTokens (n :: done).reverse = itemsBefore done ++ n.tokens := by
  induction done generalizing n with
  | nil => simp [itemTokens, moreItems, itemsBefore]
  | cons m done ih =>
    rw [List.reverse_cons, itemTokens_concat _ (by simp), ih]
    simp [itemsBefore]

/-- The same for members. -/
theorem memberTokens_reverse : memberTokens ((k, n) :: members).reverse =
    membersBefore members ++ k.keyToken :: .colon :: n.tokens := by
  induction members generalizing k n with
  | nil => simp [memberTokens, moreMembers, membersBefore]
  | cons m members ih =>
    rw [List.reverse_cons, memberTokens_concat _ _ (by simp), ih]
    simp [membersBefore]

end Before

/-- A complete value adds its tokens. -/
theorem tokens_completed {stack : List Frame} (nested : Nested stack) (n : Node) :
    (completed n stack).Fits ∧ (completed n stack).tokens = tokensBefore stack ++ n.tokens := by
  cases stack with
  | nil => exact ⟨trivial, rfl⟩
  | cons f stack =>
    have rest : Nested stack := fun g hg => nested g (List.mem_cons_of_mem _ hg)
    cases f with
    | items done =>
      refine ⟨rest, ?_⟩
      rw [completed, Progress.tokens, tokensBefore_item, List.dropLast_concat]
    | members done => exact (nested _ List.mem_cons_self).elim
    | member done k =>
      refine ⟨rest, ?_⟩
      rw [completed, Progress.tokens, tokensBefore_member, List.dropLast_concat]

/-- Where a value may come, a token begins one or completes one, and adds itself. -/
theorem tokens_of_beginValue {t : Token} {stack : List Frame} {p : Progress} (nested : Nested stack)
    (h : beginValue t stack = some p) :
    p.Fits ∧ p.tokens = tokensBefore stack ++ [t] ∧ t ≠ .fault := by
  unfold beginValue at h
  split at h
  · rw [← Option.some.inj h]
    exact ⟨(tokens_completed nested _).1, (tokens_completed nested _).2, by simp⟩
  · rw [← Option.some.inj h]
    exact ⟨(tokens_completed nested _).1, (tokens_completed nested _).2, by simp⟩
  · rw [← Option.some.inj h]
    exact ⟨nested, rfl, by simp⟩
  · rw [← Option.some.inj h]
    exact ⟨nested, rfl, by simp⟩
  · cases h

/-- Where a key may come, a string begins a member. -/
theorem tokens_of_beginMember {t : Token} {members : List (Node × Node)} {stack : List Frame}
    {p : Progress} (nested : Nested stack) (h : beginMember t (.members members :: stack) = some p) :
    p.Fits ∧ p.tokens = tokensBefore (.members members :: stack) ++ [t] ∧ t ≠ .fault := by
  simp only [beginMember] at h
  split at h
  · rw [← Option.some.inj h, Progress.tokens, tokensBefore_key, List.dropLast_concat]
    exact ⟨nested, rfl, by simp⟩
  · rw [← Option.some.inj h, Progress.tokens, tokensBefore_key, List.dropLast_concat]
    exact ⟨nested, rfl, by simp⟩
  · cases h

/-- The end of an array completes it. -/
theorem tokens_of_closeBracket (n : Node) (done : List Node) {stack : List Frame}
    (nested : Nested stack) :
    (completed (.array (n :: done).reverse true) stack).Fits ∧
      (completed (.array (n :: done).reverse true) stack).tokens =
        tokensBefore (.items done :: stack) ++ n.tokens ++ [.closeBracket] := by
  obtain ⟨fits, same⟩ := tokens_completed nested (.array (n :: done).reverse true)
  refine ⟨fits, ?_⟩
  rw [same, Node.tokens, itemTokens_reverse]
  simp [tokensBefore]

/-- The end of an object completes it. -/
theorem tokens_of_closeBrace (k n : Node) (members : List (Node × Node)) {stack : List Frame}
    (nested : Nested stack) :
    (completed (.object ((k, n) :: members).reverse true) stack).Fits ∧
      (completed (.object ((k, n) :: members).reverse true) stack).tokens =
        tokensBefore (.member members k :: stack) ++ n.tokens ++ [.closeBrace] := by
  obtain ⟨fits, same⟩ := tokens_completed nested (.object ((k, n) :: members).reverse true)
  refine ⟨fits, ?_⟩
  rw [same, Node.tokens, memberTokens_reverse]
  simp [tokensBefore]

/-- Behind an item or a member there is a comma, or the container ends. -/
theorem tokens_of_step_after {t : Token} {stack : List Frame} {p : Progress}
    (fits : Place.after.Fits stack) (h : step t stack .after = .ok p) :
    p.Fits ∧ p.tokens = (Progress.open stack .after).tokens ++ [t] ∧ t ≠ .fault := by
  match stack, fits with
  -- the comma that was counted to the last item is the token that comes, or it gives way to the bracket
  | .items (n :: done) :: stack, nested =>
    simp only [step] at h
    split at h
    · cases h
      refine ⟨Nested.cons trivial nested, ?_, by simp⟩
      simp only [Progress.tokens, tokensBefore_item, List.dropLast_concat]
    · rename_i same
      cases same
    · rename_i same
      cases same
      cases h
      obtain ⟨fits, same⟩ := tokens_of_closeBracket n done nested
      refine ⟨fits, ?_, by simp⟩
      rw [same, Progress.tokens, tokensBefore_item, List.dropLast_concat]
    · rename_i same
      cases same
    · cases h
  | .members ((k, n) :: members) :: stack, nested =>
    simp only [step] at h
    split at h
    · rename_i same
      cases same
    · cases h
      refine ⟨nested, ?_, by simp⟩
      simp only [Progress.tokens, tokensBefore_member, List.dropLast_concat]
    · rename_i same
      cases same
    · rename_i same
      cases same
      cases h
      obtain ⟨fits, same⟩ := tokens_of_closeBrace k n members nested
      refine ⟨fits, ?_, by simp⟩
      rw [same, Progress.tokens, tokensBefore_member, List.dropLast_concat]
    · cases h

/-- A step adds the token that it takes. -/
theorem tokens_of_step {t : Token} {stack : List Frame} {place : Place} {p : Progress}
    (fits : place.Fits stack) (h : step t stack place = .ok p) :
    p.Fits ∧ p.tokens = (Progress.open stack place).tokens ++ [t] ∧ t ≠ .fault := by
  -- one case for each place: what the step takes is what its place allows
  cases place with
  | value =>
    simp only [step] at h
    split at h
    · rename_i begun
      cases h
      exact tokens_of_beginValue fits begun
    · cases h
  | firstItem =>
    match stack, fits with
    | .items [] :: stack, nested =>
      simp only [step] at h
      split at h
      -- the array has no items
      · rename_i same
        cases same
        cases h
        obtain ⟨fits, same⟩ := tokens_completed nested (.array [] true)
        exact ⟨fits, by simpa [Progress.tokens, tokensBefore, itemsBefore, Node.tokens, itemTokens]
          using same, by simp⟩
      · split at h
        · rename_i begun
          cases h
          exact tokens_of_beginValue (.cons trivial nested) begun
        · cases h
  | key =>
    match stack, fits with
    | .members members :: stack, nested =>
      simp only [step] at h
      split at h
      · rename_i begun
        cases h
        exact tokens_of_beginMember nested begun
      · cases h
  | firstKey =>
    match stack, fits with
    | .members [] :: stack, nested =>
      simp only [step] at h
      split at h
      -- the object has no members
      · rename_i same
        cases same
        cases h
        obtain ⟨fits, same⟩ := tokens_completed nested (.object [] true)
        exact ⟨fits, by
          simpa [Progress.tokens, tokensBefore, membersBefore, Node.tokens, memberTokens] using same,
          by simp⟩
      · split at h
        · rename_i begun
          cases h
          exact tokens_of_beginMember nested begun
        · cases h
  | colon =>
    match stack, fits with
    | .member members k :: stack, nested =>
      simp only [step] at h
      split at h
      · cases h
        refine ⟨Nested.cons trivial nested, ?_, by simp⟩
        simp only [Progress.tokens, tokensBefore_key, List.dropLast_concat]
      · cases h
  | after => exact tokens_of_step_after fits h

/-- A container that is cut short is not complete, nor are those around it. -/
theorem isComplete_cutShort {n : Node} (cut : n.isComplete = false) (stack : List Frame) :
    (cutShort stack n).isComplete = false := by
  -- outwards through the open containers, each of which is cut short with what it holds
  induction stack generalizing n with
  | nil => exact cut
  | cons f stack ih =>
    cases f <;> exact ih (by simp [Node.isComplete])

theorem isComplete_cutDocument (stack : List Frame) : (cutDocument stack).root.isComplete = false :=
  isComplete_cutShort rfl stack

/-- Every token that cannot stand where it stands cuts the document short there. -/
theorem cutDocument_of_step {t : Token} {stack : List Frame} {place : Place} {d : Document}
    (h : step t stack place = .error d) : d = cutDocument stack := by
  unfold step at h
  repeat' split at h
  all_goals cases h
  all_goals rfl

/-- Tokens that are parsed as a complete node, with nothing behind it, are those of the node. -/
theorem tokens_of_parseFrom {p : Progress} {ts : List Token} {root : Node} (fits : p.Fits)
    (parsed : parseFrom p ts = ⟨root, false⟩) (complete : root.isComplete = true) :
    p.tokens ++ ts = root.tokens ∧ Token.fault ∉ ts := by
  -- on the tokens that are left; where the parser stops before them, the root is cut short
  induction ts generalizing p with
  | nil =>
    cases p with
    | done n =>
      cases parsed
      exact ⟨List.append_nil _, List.not_mem_nil⟩
    | «open» stack place =>
      have cut := isComplete_cutDocument stack
      rw [parseFrom] at parsed
      rw [parsed, complete] at cut
      cases cut
  | cons t ts ih =>
    cases p with
    | done n => cases parsed
    | «open» stack place =>
      rw [parseFrom] at parsed
      split at parsed
      · rename_i p stepped
        obtain ⟨fits, taken, sound⟩ := tokens_of_step fits stepped
        obtain ⟨same, rest⟩ := ih fits parsed
        refine ⟨?_, by simp [sound.symm, rest]⟩
        rw [← same, taken, List.append_assoc, List.singleton_append]
      · rename_i d stepped
        have cut := isComplete_cutDocument stack
        rw [← cutDocument_of_step stepped, parsed, complete] at cut
        cases cut

/-! ## Texts -/

/-- A text that is written for a node: it spells the tokens of the node. -/
def Written (n : Node) (text : String) : Prop := Spaced n.tokens text.toList

/-- A text that is written for a node is read as this node. -/
theorem ofText_of_written {n : Node} {text : String} (h : Written n text) :
    Document.ofText text = ⟨n, false⟩ := by
  have parsed := parseFrom_tokens n h.sound [] []
  rw [List.append_nil] at parsed
  rw [Document.ofText, tokens_of_spaced h (isChain_tokens n), Document.ofTokens, parsed]
  rfl

/-- A text that is read as a complete node is written for it. -/
theorem written_of_ofText {n : Node} {text : String} (read : Document.ofText text = ⟨n, false⟩)
    (complete : n.isComplete = true) : Written n text := by
  have start : (Progress.open [] .value).Fits := fun f hf => absurd hf List.not_mem_nil
  obtain ⟨same, sound⟩ := tokens_of_parseFrom start read complete
  rw [Written, ← same]
  exact spaced_of_tokens _ sound

/-- That a text is written for a node can be computed. -/
theorem written_of_tokens {n : Node} {text : String}
    (h : tokensWithin text.toList.length text.toList = n.tokens) (sound : Token.fault ∉ n.tokens) :
    Written n text := by
  rw [← tokens_eq_tokensWithin (Nat.le_refl _)] at h
  rw [Written, ← h]
  rw [← h] at sound
  exact spaced_of_tokens _ sound

end TraceQuery.Json
