import Mathlib

/-
  Rust's `str` methods on character lists: splitting at the first separator, stripping a
  suffix, ASCII case folding and parsing a `u16`.

  Each function works on a `List Char`, the characters of the string, by structural
  recursion, so that a string's image can be computed by `decide`. On the ASCII strings
  these methods meet in practice characters are bytes; a non-ASCII character fails every
  check below, as its bytes fail the source's.

  Proved: splitting at a separator and stripping a prefix or a suffix give back pieces
  that make the input again (`splitOnce_eq_some`, `stripPrefix_eq_some`,
  `stripSuffix_eq_some`).
-/

namespace A3sBox.Lib.Str

/-- `str::split_once(c)`: the text before the first `c` and the text after it. -/
def splitOnce (c : Char) : List Char → Option (List Char × List Char)
  | [] => none
  | x :: xs => if x = c then some ([], xs) else (splitOnce c xs).map fun p => (x :: p.1, p.2)

/-- `str::rsplit_once(c)`: the text before the last `c` and the text after it, which is
    what `rfind(c)` and the two slices around it give. -/
def rsplitOnce (c : Char) (s : List Char) : Option (List Char × List Char) :=
  (splitOnce c s.reverse).map fun p => (p.2.reverse, p.1.reverse)

/-- `str::strip_prefix`. -/
def stripPrefix : List Char → List Char → Option (List Char)
  | [], s => some s
  | _ :: _, [] => none
  | p :: ps, x :: xs => if p = x then stripPrefix ps xs else none

/-- `str::strip_suffix`. -/
def stripSuffix (suffix s : List Char) : Option (List Char) :=
  (stripPrefix suffix.reverse s.reverse).map List.reverse

/-- `str::to_ascii_lowercase`. -/
def asciiLower (s : List Char) : List Char := s.map Char.toLower

/-- `str::eq_ignore_ascii_case`. -/
def eqIgnoreAsciiCase (a b : List Char) : Bool := asciiLower a == asciiLower b

/-- The value of a string of decimal digits. -/
def digitsValue (digits : List Char) : Nat :=
  digits.foldl (fun n d => 10 * n + (d.toNat - '0'.toNat)) 0

/-- `u16::from_str`: an optional `+`, then one or more decimal digits of a value below
    2^16. -/
def parseU16 (s : List Char) : Option {n : Nat // n < 65536} :=
  let digits := match s with
    | '+' :: rest => rest
    | _ => s
  if h : digitsValue digits < 65536 then
    if !digits.isEmpty && digits.all Char.isDigit then some ⟨digitsValue digits, h⟩ else none
  else none

theorem splitOnce_eq_some {c : Char} {s before after : List Char} :
    splitOnce c s = some (before, after) ↔ c ∉ before ∧ s = before ++ c :: after := by
  induction s generalizing before with
  | nil => simp [splitOnce]
  | cons x xs ih =>
    by_cases hx : x = c
    · subst hx
      cases before with
      | nil => simp [splitOnce]
      | cons b bs => simp [splitOnce]; tauto
    · cases before with
      | nil => simp [splitOnce, hx]
      | cons b bs =>
        simp only [splitOnce, if_neg hx, Option.map_eq_some_iff, Prod.exists, Prod.mk.injEq,
          List.mem_cons, not_or, List.cons_append, List.cons.injEq]
        constructor
        · rintro ⟨a, b', hsplit, ⟨rfl, rfl⟩, rfl⟩
          obtain ⟨hc, rfl⟩ := ih.mp hsplit
          exact ⟨⟨Ne.symm hx, hc⟩, rfl, rfl⟩
        · rintro ⟨⟨-, hc⟩, rfl, rfl⟩
          exact ⟨bs, after, ih.mpr ⟨hc, rfl⟩, ⟨rfl, rfl⟩, rfl⟩

theorem splitOnce_eq_none {c : Char} {s : List Char} : splitOnce c s = none ↔ c ∉ s := by
  induction s with
  | nil => simp [splitOnce]
  | cons x xs ih =>
    by_cases hx : x = c
    · subst hx
      simp [splitOnce]
    · simp [splitOnce, hx, ih, Ne.symm hx]

theorem rsplitOnce_eq_some {c : Char} {s before after : List Char} :
    rsplitOnce c s = some (before, after) ↔ c ∉ after ∧ s = before ++ c :: after := by
  rw [rsplitOnce, Option.map_eq_some_iff]
  constructor
  · rintro ⟨⟨a, b⟩, hsplit, heq⟩
    rw [Prod.mk.injEq] at heq
    obtain ⟨rfl, rfl⟩ := heq
    obtain ⟨hc, hs⟩ := splitOnce_eq_some.mp hsplit
    refine ⟨by simpa using hc, ?_⟩
    rw [← List.reverse_reverse s, hs]
    simp
  · rintro ⟨hc, rfl⟩
    refine ⟨(after.reverse, before.reverse), splitOnce_eq_some.mpr ⟨by simpa using hc, by simp⟩, ?_⟩
    simp

theorem rsplitOnce_eq_none {c : Char} {s : List Char} : rsplitOnce c s = none ↔ c ∉ s := by
  rw [rsplitOnce, Option.map_eq_none_iff, splitOnce_eq_none, List.mem_reverse]

theorem stripPrefix_eq_some {p s rest : List Char} :
    stripPrefix p s = some rest ↔ s = p ++ rest := by
  induction p generalizing s with
  | nil => simp [stripPrefix, eq_comm]
  | cons c cs ih =>
    cases s with
    | nil => simp [stripPrefix]
    | cons x xs =>
      by_cases h : c = x
      · subst h
        simp [stripPrefix, ih]
      · simp [stripPrefix, h, Ne.symm h]

theorem stripSuffix_eq_some {suffix s rest : List Char} :
    stripSuffix suffix s = some rest ↔ s = rest ++ suffix := by
  rw [stripSuffix, Option.map_eq_some_iff]
  constructor
  · rintro ⟨r, hr, rfl⟩
    rw [stripPrefix_eq_some] at hr
    rw [← List.reverse_reverse s, hr, List.reverse_append, List.reverse_reverse]
  · rintro rfl
    exact ⟨rest.reverse, stripPrefix_eq_some.mpr (by simp), List.reverse_reverse rest⟩

/-- `str::trim_end_matches(pattern)`: every copy of the pattern at the end removed, the
    last one first. -/
def trimEndMatches (pattern s : List Char) : List Char :=
  if _hpattern : pattern = [] then s
  else
    match _hstrip : stripSuffix pattern s with
    | some rest => trimEndMatches pattern rest
    | none => s
termination_by s.length
decreasing_by
  have hs := stripSuffix_eq_some.mp ‹stripSuffix pattern s = some _›
  have hpos : 0 < pattern.length := List.length_pos_iff.mpr ‹¬pattern = []›
  rw [hs, List.length_append]
  omega

theorem trimEndMatches_of_stripSuffix_none {pattern s : List Char}
    (h : stripSuffix pattern s = none) : trimEndMatches pattern s = s := by
  rw [trimEndMatches]
  split
  · rfl
  · split
    · rename_i hsome
      rw [h] at hsome
      cases hsome
    · rfl

theorem trimEndMatches_append_self {pattern : List Char} (hpattern : pattern ≠ [])
    (s : List Char) : trimEndMatches pattern (s ++ pattern) = trimEndMatches pattern s := by
  have hstrip : stripSuffix pattern (s ++ pattern) = some s := stripSuffix_eq_some.mpr rfl
  rw [trimEndMatches, dif_neg hpattern]
  split
  · rename_i rest hrest
    rw [hstrip, Option.some.injEq] at hrest
    rw [hrest]
  · rename_i hnone
    rw [hstrip] at hnone
    cases hnone

/-- Trailing copies of a character all go, down to a text that does not end in it. -/
theorem trimEndMatches_append_replicate {c : Char} {l : List Char}
    (hl : stripSuffix [c] l = none) (n : Nat) :
    trimEndMatches [c] (l ++ List.replicate n c) = l := by
  induction n with
  | zero => simpa using trimEndMatches_of_stripSuffix_none hl
  | succ n ih =>
    rw [List.replicate_succ', ← List.append_assoc, trimEndMatches_append_self (by simp), ih]

/-- Lower-casing leaves a text without upper-case ASCII letters as it is. -/
theorem asciiLower_eq_self {s : List Char} (h : ∀ c ∈ s, c.isUpper = false) :
    asciiLower s = s := by
  rw [asciiLower]
  conv_rhs => rw [← List.map_id s]
  apply List.map_congr_left
  intro c hc
  have hupper : ¬(c.val ≥ 'A'.val ∧ c.val ≤ 'Z'.val) := by
    simpa [Char.isUpper] using h c hc
  rw [Char.toLower, dif_neg hupper, id]

/-- What `intersperse` adds is the separator. -/
theorem mem_of_mem_intersperse {α : Type} {sep a : α} :
    ∀ {l : List α}, a ∈ l.intersperse sep → a = sep ∨ a ∈ l
  | [], h => by simp at h
  | [x], h => .inr (by simpa using h)
  | x :: y :: xs, h => by
    rw [List.intersperse_cons_cons] at h
    rcases List.mem_cons.mp h with hx | h
    · exact .inr (hx ▸ List.mem_cons_self)
    rcases List.mem_cons.mp h with hsep | h
    · exact .inl hsep
    rcases mem_of_mem_intersperse h with hsep | hrest
    · exact .inl hsep
    · exact .inr (List.mem_cons_of_mem x hrest)

/-- A character of a text other than the separator lies in a piece of `split`. -/
theorem mem_splitOn_of_mem {c x : Char} {l : List Char} (hc : c ∈ l) (hne : c ≠ x) :
    ∃ piece ∈ l.splitOn x, c ∈ piece := by
  have hjoin : [x].intercalate (l.splitOn x) = l := List.intercalate_splitOn x
  rw [← hjoin] at hc
  simp only [List.intercalate, List.mem_flatten] at hc
  obtain ⟨piece, hpiece, hmem⟩ := hc
  rcases mem_of_mem_intersperse hpiece with rfl | hsplit
  · exact absurd (List.mem_singleton.mp hmem) hne
  · exact ⟨piece, hsplit, hmem⟩

/-- `digitsValue` reads back the decimal text of a number. -/
theorem digitsValue_toDigits (n : Nat) : digitsValue (Nat.toDigits 10 n) = n :=
  Nat.ofDigitChars_ten_toDigits

/-- `u16::from_str` reads back the decimal text of a `u16`. -/
theorem parseU16_toDigits {n : Nat} (hn : n < 65536) :
    parseU16 (Nat.toDigits 10 n) = some ⟨n, hn⟩ := by
  have hdigits : ∀ c ∈ Nat.toDigits 10 n, c.isDigit = true :=
    fun c hc => Nat.isDigit_of_mem_toDigits (by decide) (by decide) hc
  obtain ⟨d, ds, hcons⟩ := List.exists_cons_of_ne_nil (Nat.toDigits_ne_nil (b := 10) (n := n))
  have hd : d ≠ '+' := by
    rintro rfl
    exact absurd (hdigits '+' (hcons ▸ List.mem_cons_self)) (by decide)
  have hvalue := digitsValue_toDigits n
  rw [hcons] at hdigits hvalue ⊢
  unfold parseU16
  split
  · rename_i rest heq
    exact absurd (List.cons.inj heq).1 hd
  · simp [List.all_eq_true.mpr hdigits, hvalue, hn]

/-- `u16::from_str` takes a leading `+`. -/
theorem parseU16_plus_toDigits {n : Nat} (hn : n < 65536) :
    parseU16 ('+' :: Nat.toDigits 10 n) = parseU16 (Nat.toDigits 10 n) := by
  rw [parseU16_toDigits hn]
  unfold parseU16
  have hdigits : ∀ c ∈ Nat.toDigits 10 n, c.isDigit = true :=
    fun c hc => Nat.isDigit_of_mem_toDigits (by decide) (by decide) hc
  simp [digitsValue_toDigits, hn, List.all_eq_true.mpr hdigits, Nat.toDigits_ne_nil]

end A3sBox.Lib.Str
