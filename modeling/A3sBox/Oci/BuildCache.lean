import A3sBox.Lib.Bytes
import A3sBox.Oci.Reference

/-
  The `ENV` instruction and the build cache's key for it (`runtime/src/oci/build`).

  Model. `parse_env` (`dockerfile/parsers.rs`) reads the text after `ENV` in one of two
  forms: `KEY=VALUE ...`, split by the quote-aware `tokenize_quoted`, when the first `=`
  comes before the first whitespace; otherwise the legacy `KEY VALUE`, one variable whose
  value is the rest of the line (`split_first_word`). The engine (`engine/mod.rs`) keys
  the cache on `ENV k1=v1 k2=v2 ...`, the pairs joined by a space after `expand_args`
  (`engine/utils.rs`), and chains that text after the previous key into SHA-256, which
  stays a parameter. Its `ENV` handler expands each value and sets it in `state.env`. Text
  is a `List Char`; the `HashMap`s of variables are functions to `Option`. `unquote`
  slices `s[1..len-1]`, which panics on a lone quote: the model returns `none` there and
  `parseEnv` a `Fault.panic`.

  Proved:
  * `expandArgs_of_not_mem`: a value without `$` expands to itself;
  * `parseEnv_pairs`: the `KEY=VALUE` form reads plain variables back from their text;
    `parseEnv_legacy`: the legacy form is one variable, the first word, whose value is
    the rest;
  * `env_spellings_share_cache_key`: a `KEY=VALUE` line `a=x k2=v2 ...` of two or more
    plain variables and its legacy spelling `a x k2=v2 ...` give the same cache text, so
    the same chain key after any previous key, but a `RUN` after them sees different
    values of `a`: the cache serves the one's layer for the other.
-/

namespace A3sBox.Oci

open A3sBox.Lib A3sBox.Lib.Str A3sBox.Lib.Bytes

/-- `BoxError::BuildError(message)`, as displayed. -/
def buildError (message : String) : String := s!"Build error: {message}"

/-- `str::trim`. -/
def trimChars (s : List Char) : List Char := (trimRust (String.ofList s)).toList

/-- `str::trim_start`. -/
def trimStartChars (s : List Char) : List Char := s.dropWhile isRustWhitespace

/-- `split_first_word`: the first word of the trimmed text and the rest after it. -/
def splitFirstWord (s : List Char) : List Char × List Char :=
  let s := trimChars s
  match s.findIdx? isRustWhitespace with
  | some pos => (s.take pos, trimStartChars (s.drop pos))
  | none => (s, [])

/-- `unquote`: trim, then strip one pair of matching quotes; a lone quote makes the
    slice `s[1..0]` panic, which is `none`. -/
def unquote (s : List Char) : Option (List Char) :=
  let s := trimChars s
  if (s.head? = some '"' ∧ s.getLast? = some '"') ∨
      (s.head? = some '\'' ∧ s.getLast? = some '\'') then
    if s.length < 2 then none else some (s.drop 1).dropLast
  else some s

/-- The state of the loop of `tokenize_quoted`. -/
structure Tokenizer where
  tokens : List (List Char)
  current : List Char
  quote : Option Char
  hasContent : Bool

/-- One character of `tokenize_quoted`: inside quotes everything is kept; outside, a
    quote opens, whitespace ends a token, anything else is kept. -/
def tokenizeStep (st : Tokenizer) (c : Char) : Tokenizer :=
  match st.quote with
  | some q => { st with current := st.current ++ [c], quote := if c = q then none else some q }
  | none =>
    if c = '"' ∨ c = '\'' then { st with quote := some c, current := st.current ++ [c], hasContent := true }
    else if isRustWhitespace c then
      if st.hasContent then { st with tokens := st.tokens ++ [st.current], current := [], hasContent := false }
      else st
    else { st with current := st.current ++ [c], hasContent := true }

/-- `tokenize_quoted`. -/
def tokenizeQuoted (s : List Char) : List (List Char) :=
  let st := s.foldl tokenizeStep ⟨[], [], none, false⟩
  if st.hasContent then st.tokens ++ [st.current] else st.tokens

/-- Whether `parse_env` reads the `KEY=VALUE` form: the first `=` precedes the first
    whitespace, or there is a `=` and no whitespace. -/
def isKvForm (firstEq firstSpace : Option Nat) : Bool :=
  match firstEq, firstSpace with
  | some eq, some sp => eq < sp
  | some _, none => true
  | _, _ => false

/-- One token of the `KEY=VALUE` form. -/
def envToken (lineNum : Nat) (token : List Char) : Except (Fault String) (List Char × List Char) :=
  let text := String.ofList token
  let invalid := Fault.error (buildError s!"Line {lineNum}: invalid ENV token '{text}' (expected KEY=VALUE)")
  match splitOnce '=' token with
  | some (key, value) =>
    if !key.isEmpty then
      match unquote value with
      | some value => .ok (key, value)
      | none => .error .panic
    else .error invalid
  | none => .error invalid

/-- `parse_env`: the variables of `Instruction::Env`. -/
def parseEnv (rest : List Char) (lineNum : Nat) : Except (Fault String) (List (List Char × List Char)) :=
  if rest.isEmpty then .error (.error (buildError s!"Line {lineNum}: ENV requires a key and value"))
  else if isKvForm (rest.findIdx? (· = '=')) (rest.findIdx? isRustWhitespace) then
    (tokenizeQuoted rest).mapM (envToken lineNum)
  else
    let (key, value) := splitFirstWord rest
    .ok [(key, value)]

/-- The characters `$NAME` reads. -/
def isNameChar (c : Char) : Bool := c.isAlphanum || c = '_'

/-- What follows the first `c` is shorter than the text it was split from. -/
theorem length_lt_of_splitOnce {c : Char} {s before after : List Char}
    (h : splitOnce c s = some (before, after)) : after.length < s.length := by
  obtain ⟨-, hs⟩ := splitOnce_eq_some.mp h
  rw [hs, List.length_append, List.length_cons]
  omega

/-- `expand_args`: `${NAME}` and `$NAME` (the longest run of name characters) become the
    variable's value; an unknown name stays as written. -/
def expandArgs (args : List Char → Option (List Char)) : List Char → List Char
  | [] => []
  | '$' :: '{' :: rest =>
    match hsplit : splitOnce '}' rest with
    | some (name, after) =>
      have : after.length < rest.length := length_lt_of_splitOnce hsplit
      (args name).getD ('$' :: '{' :: name ++ ['}']) ++ expandArgs args after
    | none => '$' :: expandArgs args ('{' :: rest)
  | '$' :: rest =>
    let name := rest.takeWhile isNameChar
    if name.isEmpty then '$' :: expandArgs args rest
    else (args name).getD ('$' :: name) ++ expandArgs args (rest.dropWhile isNameChar)
  | c :: rest => c :: expandArgs args rest
termination_by s => s.length
decreasing_by
  all_goals simp only [List.length_cons]
  · omega
  · omega
  · omega
  · exact Nat.lt_succ_of_le (List.dropWhile_suffix _).length_le
  · omega

/-- The text the cache key reads for `Instruction::Env`. -/
def envRepr (vars : List (List Char × List Char)) (expansion : List Char → Option (List Char)) :
    List Char :=
  "ENV ".toList ++ [' '].intercalate (vars.map fun (key, value) => key ++ '=' :: expandArgs expansion value)

/-- `BuildCache::chain`, over the hash function `sha256`. -/
def chain (sha256 : List Char → List Char) (prevKey instructionRepr : List Char)
    (inputHash : Option (List Char)) : List Char :=
  sha256 (prevKey ++ '\n' :: instructionRepr ++ inputHash.elim [] fun hash => '\n' :: hash)

/-- What the build state holds for `ENV`: the environment in order of first setting,
    and the declared build arguments. -/
structure BuildState where
  env : List (List Char × List Char)
  buildArgs : List Char → Option (List Char)

/-- The value of a variable in `state.env`. -/
def envLookup (key : List Char) : List (List Char × List Char) → Option (List Char)
  | [] => none
  | (k, v) :: rest => if k = key then some v else envLookup key rest

/-- Set a variable: in place when it is set, else at the end. -/
def setEnv (key value : List Char) : List (List Char × List Char) → List (List Char × List Char)
  | [] => [(key, value)]
  | (k, v) :: rest => if k = key then (k, value) :: rest else (k, v) :: setEnv key value rest

/-- `expansion_vars`, and the variables a `RUN` sees (`run_env`): the build arguments,
    with the environment over them. -/
def expansionVars (state : BuildState) (key : List Char) : Option (List Char) :=
  (envLookup key state.env).or (state.buildArgs key)

/-- The engine's handler of `Instruction::Env`. -/
def applyEnv (vars : List (List Char × List Char)) (state : BuildState) : BuildState :=
  vars.foldl (fun state (key, value) =>
    { state with env := setEnv key (expandArgs (expansionVars state) value) state.env }) state

/-! ## Plain words -/

/-- A word with no whitespace, no quote and no `$`: every step above reads it as it is. -/
def PlainWord (w : List Char) : Prop :=
  ∀ c ∈ w, isRustWhitespace c = false ∧ c ≠ '"' ∧ c ≠ '\'' ∧ c ≠ '$'

/-- The check of `PlainWord` as a computation. -/
theorem PlainWord.iff_all {w : List Char} :
    PlainWord w ↔ (w.all fun c => !isRustWhitespace c && c != '"' && c != '\'' && c != '$') = true := by
  unfold PlainWord
  rw [List.all_eq_true]
  simp only [Bool.and_eq_true, Bool.not_eq_true', bne_iff_ne, ne_eq, and_assoc]

instance (w : List Char) : Decidable (PlainWord w) := decidable_of_iff _ PlainWord.iff_all.symm

/-- A variable as the `KEY=VALUE` form writes it with plain text: a key with no `=`. -/
def PlainPair (pair : List Char × List Char) : Prop :=
  pair.1 ≠ [] ∧ PlainWord pair.1 ∧ '=' ∉ pair.1 ∧ PlainWord pair.2

instance (pair : List Char × List Char) : Decidable (PlainPair pair) := by
  unfold PlainPair
  infer_instance

/-- The text of the `KEY=VALUE` form for a list of variables. -/
def renderPairs (pairs : List (List Char × List Char)) : List Char :=
  [' '].intercalate (pairs.map fun (key, value) => key ++ '=' :: value)

theorem PlainWord.append {u w : List Char} : PlainWord (u ++ w) ↔ PlainWord u ∧ PlainWord w := by
  unfold PlainWord
  simp only [List.mem_append]
  exact ⟨fun h => ⟨fun c hc => h c (.inl hc), fun c hc => h c (.inr hc)⟩,
    fun h c hc => hc.elim (h.1 c) (h.2 c)⟩

theorem PlainWord.cons {c : Char} {w : List Char} :
    PlainWord (c :: w) ↔ (isRustWhitespace c = false ∧ c ≠ '"' ∧ c ≠ '\'' ∧ c ≠ '$') ∧ PlainWord w := by
  unfold PlainWord
  simp only [List.mem_cons, forall_eq_or_imp]

theorem plainWord_eq : PlainWord ['='] := by
  intro c hc
  rw [List.mem_singleton] at hc
  subst hc
  decide

theorem PlainWord.trimmed {w : List Char} (h : PlainWord w) : Trimmed w :=
  ⟨fun c hc => (h c (List.mem_of_mem_head? hc)).1, fun c hc => (h c (List.mem_of_mem_getLast? hc)).1⟩

theorem trimChars_of_trimmed {s : List Char} (h : Trimmed s) : trimChars s = s := trimRust_ofList h

/-! ## Expansion -/

theorem expandArgs_cons_of_ne {args : List Char → Option (List Char)} {c : Char} {rest : List Char}
    (hc : c ≠ '$') : expandArgs args (c :: rest) = c :: expandArgs args rest := by
  -- the equation of the last pattern asks that neither `$` pattern matches
  rw [expandArgs]
  · intro _ hdollar _
    exact hc hdollar
  · exact hc

/-- A value without `$` expands to itself, whatever the variables. -/
theorem expandArgs_of_not_mem (args : List Char → Option (List Char)) {s : List Char} (h : '$' ∉ s) :
    expandArgs args s = s := by
  induction s with
  | nil => rw [expandArgs]
  | cons c rest ih =>
    rw [List.mem_cons, not_or] at h
    rw [expandArgs_cons_of_ne (Ne.symm h.1), ih h.2]

theorem PlainWord.not_mem_dollar {w : List Char} (h : PlainWord w) : '$' ∉ w :=
  fun hmem => (h '$' hmem).2.2.2 rfl

theorem PlainWord.not_mem_space {w : List Char} (h : PlainWord w) : ' ' ∉ w :=
  fun hmem => absurd (h ' ' hmem).1 (by decide)

/-- The token `key=value` of a plain variable is a plain word. -/
theorem PlainPair.token {pair : List Char × List Char} (h : PlainPair pair) :
    PlainWord (pair.1 ++ '=' :: pair.2) :=
  PlainWord.append.mpr ⟨h.2.1, PlainWord.cons.mpr ⟨plainWord_eq '=' (List.mem_singleton_self _), h.2.2.2⟩⟩

/-! ## The quote-aware tokenizer -/

theorem tokenizeStep_plain {st : Tokenizer} {c : Char} (hq : st.quote = none)
    (hc : isRustWhitespace c = false ∧ c ≠ '"' ∧ c ≠ '\'' ∧ c ≠ '$') :
    tokenizeStep st c = { st with current := st.current ++ [c], hasContent := true } := by
  unfold tokenizeStep
  rw [hq]
  dsimp only
  rw [if_neg (by rintro (h | h) <;> simp_all), if_neg (by rw [hc.1]; decide)]

theorem tokenizeStep_space (st : Tokenizer) (hq : st.quote = none) (hcontent : st.hasContent = true) :
    tokenizeStep st ' ' = { st with tokens := st.tokens ++ [st.current], current := [], hasContent := false } := by
  unfold tokenizeStep
  rw [hq]
  dsimp only
  rw [if_neg (by decide), if_pos (by decide), if_pos hcontent]

/-- A plain word is added to the current token. -/
theorem foldl_tokenizeStep_plain {w : List Char} (hw : PlainWord w) (tokens : List (List Char))
    (current : List Char) (hasContent : Bool) :
    w.foldl tokenizeStep ⟨tokens, current, none, hasContent⟩ =
      ⟨tokens, current ++ w, none, hasContent || !w.isEmpty⟩ := by
  induction w generalizing current hasContent with
  | nil => simp
  | cons c cs ih =>
    obtain ⟨hc, hcs⟩ := PlainWord.cons.mp hw
    rw [List.foldl_cons, tokenizeStep_plain rfl hc]
    dsimp only
    rw [ih hcs]
    simp

/-- Plain words joined by single spaces are read back as those words. -/
theorem foldl_tokenizeStep_intercalate (tokens : List (List Char)) (w : List Char)
    (ws : List (List Char)) (hplain : ∀ v ∈ w :: ws, PlainWord v ∧ v ≠ []) :
    ([' '].intercalate (w :: ws)).foldl tokenizeStep ⟨tokens, [], none, false⟩ =
      ⟨tokens ++ (w :: ws).dropLast, (w :: ws).getLast (List.cons_ne_nil _ _), none, true⟩ := by
  induction ws generalizing tokens w with
  | nil =>
    obtain ⟨hw, hne⟩ := hplain w (List.mem_cons_self)
    rw [List.intercalate_singleton, foldl_tokenizeStep_plain hw]
    simp [hne]
  | cons w' ws ih =>
    obtain ⟨hw, hne⟩ := hplain w (List.mem_cons_self)
    -- the first word, then the space that ends it, then the others
    rw [List.intercalate_cons_cons, List.foldl_append, List.foldl_append,
      foldl_tokenizeStep_plain hw]
    have hspace := tokenizeStep_space ⟨tokens, [] ++ w, none, false || !w.isEmpty⟩ rfl
      (by simpa using hne)
    rw [List.foldl_cons, List.foldl_nil, hspace]
    dsimp only
    rw [ih (tokens ++ [[] ++ w]) w' (fun v hv => hplain v (List.mem_cons_of_mem _ hv))]
    simp

theorem tokenizeQuoted_intercalate {ws : List (List Char)} (hplain : ∀ v ∈ ws, PlainWord v ∧ v ≠ []) :
    tokenizeQuoted ([' '].intercalate ws) = ws := by
  cases ws with
  | nil => rfl
  | cons w ws =>
    unfold tokenizeQuoted
    rw [foldl_tokenizeStep_intercalate [] w ws hplain]
    dsimp only
    rw [if_pos rfl, List.nil_append, List.dropLast_append_getLast]

/-! ## The text of the `KEY=VALUE` form -/

theorem renderPairs_cons_cons (key value : List Char) (next : List Char × List Char)
    (more : List (List Char × List Char)) :
    renderPairs ((key, value) :: next :: more) =
      (key ++ '=' :: value) ++ ' ' :: renderPairs (next :: more) := by
  unfold renderPairs
  rw [List.map_cons, List.map_cons, List.intercalate_cons_cons, List.append_assoc,
    List.singleton_append]

theorem renderPairs_ne_nil (pair : List Char × List Char) (more : List (List Char × List Char)) :
    renderPairs (pair :: more) ≠ [] := by
  obtain ⟨key, value⟩ := pair
  cases more with
  | nil => simp [renderPairs]
  | cons next more =>
    rw [renderPairs_cons_cons]
    simp

/-- Every character of words joined by spaces is a space or a character of a word. -/
theorem mem_intercalate_space {c : Char} :
    ∀ {ws : List (List Char)}, c ∈ [' '].intercalate ws → c = ' ' ∨ ∃ w ∈ ws, c ∈ w
  | [], h => nomatch h
  | [w], h => .inr ⟨w, List.mem_singleton_self _, by rwa [List.intercalate_singleton] at h⟩
  | w :: w' :: ws, h => by
    rw [List.intercalate_cons_cons, List.mem_append, List.mem_append, List.mem_singleton] at h
    rcases h with (hw | hspace) | hrest
    · exact .inr ⟨w, List.mem_cons_self, hw⟩
    · exact .inl hspace
    · rcases mem_intercalate_space hrest with hspace | ⟨v, hv, hc⟩
      · exact .inl hspace
      · exact .inr ⟨v, List.mem_cons_of_mem _ hv, hc⟩

/-- The text of plain variables holds no whitespace but its separating spaces, no quote
    and no `$`. -/
theorem mem_renderPairs {pairs : List (List Char × List Char)} (h : ∀ p ∈ pairs, PlainPair p)
    {c : Char} (hc : c ∈ renderPairs pairs) :
    c = ' ' ∨ (isRustWhitespace c = false ∧ c ≠ '"' ∧ c ≠ '\'' ∧ c ≠ '$') := by
  rcases mem_intercalate_space hc with hspace | ⟨w, hw, hcw⟩
  · exact .inl hspace
  · obtain ⟨p, hp, rfl⟩ := List.mem_map.mp hw
    exact .inr ((h p hp).token c hcw)

/-- The text of plain variables ends with the last of them. -/
theorem renderPairs_getLast? {pairs : List (List Char × List Char)} (h : ∀ p ∈ pairs, PlainPair p) :
    ∀ c ∈ (renderPairs pairs).getLast?, isRustWhitespace c = false := by
  induction pairs with
  | nil => exact fun c hc => nomatch hc
  | cons pair more ih =>
    have htoken := (h pair List.mem_cons_self).token
    obtain ⟨key, value⟩ := pair
    cases more with
    | nil =>
      intro c hc
      have hmem : c ∈ renderPairs [(key, value)] := List.mem_of_mem_getLast? hc
      rw [renderPairs, List.map_singleton, List.intercalate_singleton] at hmem
      exact (htoken c hmem).1
    | cons next more =>
      have hsplit : (key ++ '=' :: value) ++ ' ' :: renderPairs (next :: more) =
          ((key ++ '=' :: value) ++ [' ']) ++ renderPairs (next :: more) := by simp
      rw [renderPairs_cons_cons, hsplit, List.getLast?_append_of_ne_nil _ (renderPairs_ne_nil next more)]
      exact ih (fun p hp => h p (List.mem_cons_of_mem _ hp))

/-! ## Reading the two forms -/

theorem findIdx?_append_of_forall {p : Char → Bool} {l₁ l₂ : List Char} (h : ∀ c ∈ l₁, p c = false) :
    (l₁ ++ l₂).findIdx? p = (l₂.findIdx? p).map (· + l₁.length) := by
  induction l₁ with
  | nil => simp
  | cons c cs ih =>
    rw [List.cons_append, List.findIdx?_cons, if_neg (by simp [h c List.mem_cons_self]),
      ih (fun x hx => h x (List.mem_cons_of_mem _ hx)), Option.map_map]
    -- `(i + cs.length) + 1` is `i + (cs.length + 1)` by definition
    congr 1

theorem unquote_plain {w : List Char} (hw : PlainWord w) : unquote w = some w := by
  unfold unquote
  rw [trimChars_of_trimmed hw.trimmed]
  -- a plain word begins with no quote
  have hhead : ∀ q, (q = '"' ∨ q = '\'') → w.head? ≠ some q := by
    intro q hq hhead
    have hplain := hw q (List.mem_of_mem_head? hhead)
    rcases hq with rfl | rfl
    · exact hplain.2.1 rfl
    · exact hplain.2.2.1 rfl
  rw [if_neg]
  rintro (⟨hq, -⟩ | ⟨hq, -⟩)
  · exact hhead '"' (.inl rfl) hq
  · exact hhead '\'' (.inr rfl) hq

theorem envToken_plain (lineNum : Nat) {pair : List Char × List Char} (h : PlainPair pair) :
    envToken lineNum (pair.1 ++ '=' :: pair.2) = .ok pair := by
  unfold envToken
  dsimp only
  rw [splitOnce_eq_some.mpr ⟨h.2.2.1, rfl⟩]
  dsimp only
  rw [if_pos (by simpa using h.1), unquote_plain h.2.2.2]

theorem mapM_envToken (lineNum : Nat) {pairs : List (List Char × List Char)}
    (h : ∀ p ∈ pairs, PlainPair p) :
    (pairs.map fun (key, value) => key ++ '=' :: value).mapM (envToken lineNum) = .ok pairs := by
  induction pairs with
  | nil => rfl
  | cons pair more ih =>
    rw [List.map_cons, List.mapM_cons, envToken_plain lineNum (h pair List.mem_cons_self), ok_bind,
      ih (fun p hp => h p (List.mem_cons_of_mem _ hp)), ok_bind]
    rfl

/-- The `KEY=VALUE` form reads plain variables back from their text. -/
theorem parseEnv_pairs (lineNum : Nat) {pairs : List (List Char × List Char)}
    (h : ∀ p ∈ pairs, PlainPair p) (hne : pairs ≠ []) :
    parseEnv (renderPairs pairs) lineNum = .ok pairs := by
  obtain ⟨⟨a, x⟩, more, rfl⟩ := List.exists_cons_of_ne_nil hne
  obtain ⟨ha, hkey, heq, hx⟩ := h (a, x) List.mem_cons_self
  -- the text is `a=x` and then nothing or a space and the others
  obtain ⟨tail, htext, htail⟩ : ∃ tail, renderPairs ((a, x) :: more) = a ++ '=' :: x ++ tail ∧
      (tail = [] ∨ ∃ rest, tail = ' ' :: rest) := by
    cases more with
    | nil => exact ⟨[], by simp [renderPairs], .inl rfl⟩
    | cons next more => exact ⟨_, renderPairs_cons_cons a x next more, .inr ⟨_, rfl⟩⟩
  have hnoeq : ∀ c ∈ a, decide (c = '=') = false := by
    intro c hc
    rw [decide_eq_false_iff_not]
    rintro rfl
    exact heq hc
  have hfirstEq : (renderPairs ((a, x) :: more)).findIdx? (· = '=') = some a.length := by
    rw [htext, List.append_assoc, findIdx?_append_of_forall hnoeq, List.cons_append,
      List.findIdx?_cons, if_pos (by decide)]
    simp
  have hkv : isKvForm ((renderPairs ((a, x) :: more)).findIdx? (· = '='))
      ((renderPairs ((a, x) :: more)).findIdx? isRustWhitespace) = true := by
    have hnows : ∀ c ∈ a ++ '=' :: x, isRustWhitespace c = false :=
      fun c hc => ((PlainPair.token (h (a, x) List.mem_cons_self)) c hc).1
    rw [hfirstEq, htext, findIdx?_append_of_forall hnows]
    cases tail.findIdx? isRustWhitespace with
    | none => rfl
    | some i =>
      simp only [isKvForm, Option.map_some, List.length_append, List.length_cons, decide_eq_true_eq]
      omega
  have hnonempty : (renderPairs ((a, x) :: more)).isEmpty = false := by
    rw [htext, List.isEmpty_eq_false_iff]
    simp
  unfold parseEnv
  rw [if_neg (by rw [hnonempty]; decide), if_pos hkv, renderPairs, tokenizeQuoted_intercalate, mapM_envToken lineNum h]
  intro w hw
  obtain ⟨p, hp, rfl⟩ := List.mem_map.mp hw
  exact ⟨(h p hp).token, by simp⟩

/-- The legacy form reads one variable, the first word, with the rest of the text as its
    value. -/
theorem parseEnv_legacy (lineNum : Nat) {key value : List Char} (hkey : key ≠ [])
    (hplain : PlainWord key) (heq : '=' ∉ key) (hvalue : Trimmed value) (hne : value ≠ []) :
    parseEnv (key ++ ' ' :: value) lineNum = .ok [(key, value)] := by
  have hnows : ∀ c ∈ key, isRustWhitespace c = false := fun c hc => (hplain c hc).1
  have hfirstSpace : (key ++ ' ' :: value).findIdx? isRustWhitespace = some key.length := by
    rw [findIdx?_append_of_forall hnows, List.findIdx?_cons, if_pos (by decide)]
    simp
  -- the first `=`, if any, comes after the first space
  have hnoeq : ∀ c ∈ key ++ [' '], decide (c = '=') = false := by
    intro c hc
    rw [List.mem_append, List.mem_singleton] at hc
    rcases hc with hc | rfl
    · rw [decide_eq_false_iff_not]
      rintro rfl
      exact heq hc
    · decide
  have hkv : isKvForm ((key ++ ' ' :: value).findIdx? (· = '=')) (some key.length) = false := by
    rw [← List.singleton_append, ← List.append_assoc, findIdx?_append_of_forall hnoeq]
    cases value.findIdx? (· = '=') with
    | none => rfl
    | some i =>
      simp only [isKvForm, Option.map_some, List.length_append, List.length_singleton, decide_eq_false_iff_not]
      omega
  have htrimmed : Trimmed (key ++ ' ' :: value) := by
    constructor
    · rw [List.head?_append_of_ne_nil _ hkey]
      exact hplain.trimmed.1
    · rw [← List.singleton_append, ← List.append_assoc, List.getLast?_append_of_ne_nil _ hne]
      exact hvalue.2
  have hsplit : splitFirstWord (key ++ ' ' :: value) = (key, value) := by
    unfold splitFirstWord
    rw [trimChars_of_trimmed htrimmed]
    dsimp only
    rw [hfirstSpace]
    dsimp only
    rw [List.take_left', List.drop_left', trimStartChars, List.dropWhile_cons, if_pos (by decide),
      dropWhile_of_head hvalue.1] <;> rfl
  unfold parseEnv
  rw [if_neg (by simp), hfirstSpace, hkv, if_neg (by decide), hsplit]

/-! ## The cache text and the environment -/

/-- With values free of `$`, the cache text of `ENV` is its `KEY=VALUE` text. -/
theorem envRepr_of_not_mem (expansion : List Char → Option (List Char))
    {pairs : List (List Char × List Char)} (h : ∀ p ∈ pairs, '$' ∉ p.2) :
    envRepr pairs expansion = "ENV ".toList ++ renderPairs pairs := by
  unfold envRepr renderPairs
  congr 2
  apply List.map_congr_left
  intro ⟨key, value⟩ hp
  dsimp only
  rw [expandArgs_of_not_mem expansion (h _ hp)]

theorem envLookup_setEnv (key value k : List Char) (env : List (List Char × List Char)) :
    envLookup k (setEnv key value env) = if key = k then some value else envLookup k env := by
  induction env with
  | nil => rfl
  | cons entry rest ih =>
    obtain ⟨k', v'⟩ := entry
    unfold setEnv
    by_cases hk' : k' = key
    · rw [if_pos hk']
      subst hk'
      unfold envLookup
      by_cases hk : k' = k <;> simp [hk]
    · rw [if_neg hk']
      unfold envLookup
      rw [ih]
      by_cases hk : k' = k
      · rw [if_pos hk, if_pos hk, if_neg (fun h => hk' (hk.trans h.symm))]
      · rw [if_neg hk, if_neg hk]

/-- After `ENV` sets a variable to a plain value, every further plain `ENV` variable
    leaves it at a plain value. -/
theorem envLookup_applyEnv_plain (key : List Char) (state : BuildState)
    (hstate : ∃ w, envLookup key state.env = some w ∧ PlainWord w)
    {pairs : List (List Char × List Char)} (h : ∀ p ∈ pairs, PlainPair p) :
    ∃ w, envLookup key (applyEnv pairs state).env = some w ∧ PlainWord w := by
  induction pairs generalizing state with
  | nil => exact hstate
  | cons pair more ih =>
    obtain ⟨k, v⟩ := pair
    have hv := (h (k, v) List.mem_cons_self).2.2.2
    refine ih _ ?_ (fun p hp => h p (List.mem_cons_of_mem _ hp))
    -- one variable: the key keeps its value or takes the plain `v`
    show ∃ w, envLookup key (setEnv k (expandArgs (expansionVars state) v) state.env) = some w ∧ PlainWord w
    rw [envLookup_setEnv, expandArgs_of_not_mem _ hv.not_mem_dollar]
    split
    · exact ⟨v, rfl, hv⟩
    · exact hstate

/-- Two spellings of one `ENV` line: the `KEY=VALUE` text of plain variables
    `a=x k2=v2 ...`, and the legacy text `a x k2=v2 ...` with its first `=` a space. The
    legacy one is the single variable `a`; both give the same cache text, so the same
    chain key after every previous key, while a later `RUN` sees different values of
    `a`. -/
theorem env_spellings_share_cache_key {a x : List Char} {more : List (List Char × List Char)}
    (hpairs : ∀ p ∈ (a, x) :: more, PlainPair p) (hmore : more ≠ []) (hx : x ≠ []) (lineNum : Nat)
    (state : BuildState) (sha256 : List Char → List Char) (prevKey : List Char) :
    parseEnv (renderPairs ((a, x) :: more)) lineNum = .ok ((a, x) :: more) ∧
      parseEnv (a ++ ' ' :: (x ++ ' ' :: renderPairs more)) lineNum =
        .ok [(a, x ++ ' ' :: renderPairs more)] ∧
      chain sha256 prevKey (envRepr [(a, x ++ ' ' :: renderPairs more)] (expansionVars state)) none =
        chain sha256 prevKey (envRepr ((a, x) :: more) (expansionVars state)) none ∧
      expansionVars (applyEnv [(a, x ++ ' ' :: renderPairs more)] state) a ≠
        expansionVars (applyEnv ((a, x) :: more) state) a := by
  obtain ⟨ha, hkey, heq, hxplain⟩ := hpairs (a, x) List.mem_cons_self
  have hmorePairs : ∀ p ∈ more, PlainPair p := fun p hp => hpairs p (List.mem_cons_of_mem _ hp)
  obtain ⟨next, more', rfl⟩ := List.exists_cons_of_ne_nil hmore
  set value := x ++ ' ' :: renderPairs (next :: more')
  -- the legacy value is everything after `a `: no `$`, and trimmed at both ends
  have hvalueChars : ∀ c ∈ value, c = ' ' ∨ (isRustWhitespace c = false ∧ c ≠ '"' ∧ c ≠ '\'' ∧ c ≠ '$') := by
    intro c hc
    rcases List.mem_append.mp hc with hcx | hcs
    · exact .inr (hxplain c hcx)
    · rcases List.mem_cons.mp hcs with hspace | hrest
      · exact .inl hspace
      · exact mem_renderPairs hmorePairs hrest
  have hdollar : '$' ∉ value := fun hmem => by
    rcases hvalueChars '$' hmem with h | h
    · cases h
    · exact h.2.2.2 rfl
  have hvalue : Trimmed value := by
    constructor
    · rw [List.head?_append_of_ne_nil _ hx]
      exact hxplain.trimmed.1
    · have hsplit : value = (x ++ [' ']) ++ renderPairs (next :: more') := by simp [value]
      rw [hsplit, List.getLast?_append_of_ne_nil _ (renderPairs_ne_nil next more')]
      exact renderPairs_getLast? hmorePairs
  refine ⟨parseEnv_pairs lineNum hpairs (List.cons_ne_nil _ _),
    parseEnv_legacy lineNum ha hkey heq hvalue (by simp [value]), ?_, ?_⟩
  · -- both cache texts are `ENV a=x k2=v2 ...`
    have hlegacy : envRepr [(a, value)] (expansionVars state) =
        "ENV ".toList ++ (a ++ '=' :: value) := by
      rw [envRepr_of_not_mem _ (by simpa using hdollar)]
      simp [renderPairs]
    have hpairsRepr : envRepr ((a, x) :: next :: more') (expansionVars state) =
        "ENV ".toList ++ (a ++ '=' :: value) := by
      rw [envRepr_of_not_mem _ (fun p hp => (hpairs p hp).2.2.2.not_mem_dollar),
        renderPairs_cons_cons]
      simp [value]
    rw [hlegacy, hpairsRepr]
  · -- the legacy value of `a` holds a space, and no plain value does
    obtain ⟨w, hw, hplain⟩ := envLookup_applyEnv_plain a
      { state with env := setEnv a (expandArgs (expansionVars state) x) state.env }
      ⟨x, by rw [envLookup_setEnv, if_pos rfl, expandArgs_of_not_mem _ hxplain.not_mem_dollar], hxplain⟩
      hmorePairs
    have hafterPairs : expansionVars (applyEnv ((a, x) :: next :: more') state) a = some w := by
      unfold expansionVars
      rw [show applyEnv ((a, x) :: next :: more') state = applyEnv (next :: more')
        { state with env := setEnv a (expandArgs (expansionVars state) x) state.env } from rfl, hw]
      rfl
    have hafterLegacy : expansionVars (applyEnv [(a, value)] state) a = some value := by
      unfold expansionVars
      show (envLookup a (setEnv a (expandArgs (expansionVars state) value) state.env)).or _ = _
      rw [envLookup_setEnv, if_pos rfl, expandArgs_of_not_mem _ hdollar]
      rfl
    rw [hafterLegacy, hafterPairs]
    intro hsame
    have hspace : ' ' ∈ value := by simp [value]
    rw [Option.some.inj hsame] at hspace
    exact hplain.not_mem_space hspace

theorem env_legacy_spelling_collides :
    (∀ p ∈ [(['a'], ['x']), (['b'], ['y'])], PlainPair p) ∧
      parseEnv ['a', '=', 'x', ' ', 'b', '=', 'y'] 1 = .ok [(['a'], ['x']), (['b'], ['y'])] ∧
      parseEnv ['a', ' ', 'x', ' ', 'b', '=', 'y'] 1 = .ok [(['a'], ['x', ' ', 'b', '=', 'y'])] ∧
      chain id [] (envRepr [(['a'], ['x', ' ', 'b', '=', 'y'])] (expansionVars ⟨[], fun _ => none⟩)) none =
        chain id [] (envRepr [(['a'], ['x']), (['b'], ['y'])] (expansionVars ⟨[], fun _ => none⟩)) none ∧
      expansionVars (applyEnv [(['a'], ['x', ' ', 'b', '=', 'y'])] ⟨[], fun _ => none⟩) ['a'] ≠
        expansionVars (applyEnv [(['a'], ['x']), (['b'], ['y'])] ⟨[], fun _ => none⟩) ['a'] := by
  have hpairs : ∀ p ∈ [(['a'], ['x']), (['b'], ['y'])], PlainPair p := by decide
  exact ⟨hpairs, env_spellings_share_cache_key hpairs (by decide) (by decide) 1 ⟨[], fun _ => none⟩ id []⟩

end A3sBox.Oci
