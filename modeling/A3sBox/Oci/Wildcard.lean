import A3sBox.Oci.DockerIgnore
import A3sBox.Lib.Glob

/-
  `wildcard_match` (`runtime/src/oci/build/dockerignore.rs`) against the language of its
  pattern, `Glob.Matches`.

  Model. The loop is `wildcardLoop` of `A3sBox.Oci.DockerIgnore`. What it has matched at
  a state is `LoopMatched`: before any `*`, the pattern read so far against the text
  read so far; after the last `*` it took, at `sp`, the pattern up to that `*` against
  the text up to `mark`, and the pattern after it against the text after `mark`.

  Proved:
  * `wildcard_match_sound`: every text the loop accepts is in the language of the
    pattern, for every pattern and text;
  * `wildcard_match_misses_star_text`: the converse fails once the text holds a `*`. The
    literal branch is tried first and reads a `*` of the pattern as the text's `*`, so
    the pattern `*` rejects `*b`, which it matches;
  * `segments_match_iff_split`: `segments_match` accepts a path exactly when it splits
    along the pattern, `**` taking any number of whole segments and every other pattern
    segment one segment that `wildcard_match` accepts; with the first result,
    `segmentsMatch_sound` reads every accepted path in the language of the pattern.
-/

namespace A3sBox.Oci

open A3sBox.Lib.Glob

/-- What the loop of `wildcard_match` has matched at the state `p`, `t`, `star`, `mark`. -/
def LoopMatched (pat txt : List Char) (p t : Nat) : Option Nat → Nat → Prop
  | none, _ => Matches (pat.take p) (txt.take t)
  | some sp, mark =>
    sp < p ∧ pat[sp]? = some '*' ∧ Matches (pat.take (sp + 1)) (txt.take mark) ∧
      Matches ((pat.take p).drop (sp + 1)) ((txt.take t).drop mark)

/-- A list cut at `k ≤ n`: its first `n` elements are its first `k` and what follows. -/
theorem take_eq_take_append_drop {l : List Char} {k n : Nat} (hk : k ≤ n) :
    l.take n = l.take k ++ (l.take n).drop k := by
  conv_lhs => rw [← List.take_append_drop k (l.take n), List.take_take, Nat.min_eq_left hk]

/-- One more element of a list, at an index where it has one. -/
theorem take_add_one_of_getElem? {l : List Char} {n : Nat} {c : Char} (h : l[n]? = some c) :
    l.take (n + 1) = l.take n ++ [c] := by
  rw [List.take_add_one, h, Option.toList_some]

/-- The loop's state matches the pattern read so far against the text read so far. -/
theorem LoopMatched.prefix {pat txt : List Char} {p t : Nat} {star : Option Nat} {mark : Nat}
    (hmatched : LoopMatched pat txt p t star mark) (hmark : mark ≤ t) :
    Matches (pat.take p) (txt.take t) := by
  cases star with
  | none => exact hmatched
  | some sp =>
    obtain ⟨hsp, -, hbefore, hafter⟩ := hmatched
    rw [take_eq_take_append_drop (by omega : sp + 1 ≤ p), take_eq_take_append_drop hmark]
    exact hbefore.append hafter

/-- The literal branch: `?` or the same character takes the text's next character. -/
theorem LoopMatched.literal {pat txt : List Char} {p t : Nat} {star : Option Nat} {mark : Nat}
    (hmatched : LoopMatched pat txt p t star mark) (hmark : mark ≤ t) {c d : Char}
    (hp : pat[p]? = some c) (ht : txt[t]? = some d) (hcd : c = '?' ∨ c = d) :
    LoopMatched pat txt (p + 1) (t + 1) star mark := by
  have hpat := take_add_one_of_getElem? hp
  have htxt := take_add_one_of_getElem? ht
  have hlen : p ≤ (pat.take p).length := by
    rw [List.length_take, Nat.min_eq_left (List.getElem?_eq_some_iff.mp hp).1.le]
  cases star with
  | none =>
    show Matches _ _
    rw [hpat, htxt]
    exact Matches.append hmatched (Matches.single hcd)
  | some sp =>
    obtain ⟨hsp, hspstar, hbefore, hafter⟩ := hmatched
    have htlen : t ≤ (txt.take t).length := by
      rw [List.length_take, Nat.min_eq_left (List.getElem?_eq_some_iff.mp ht).1.le]
    refine ⟨by omega, hspstar, hbefore, ?_⟩
    rw [hpat, htxt, List.drop_append_of_le_length (by omega),
      List.drop_append_of_le_length (by omega)]
    exact Matches.append hafter (Matches.single hcd)

/-- A `*` of the pattern: it takes no character yet, and becomes the backtracking point. -/
theorem LoopMatched.star {pat txt : List Char} {p t : Nat} {star : Option Nat} {mark : Nat}
    (hmatched : LoopMatched pat txt p t star mark) (hmark : mark ≤ t)
    (hp : pat[p]? = some '*') : LoopMatched pat txt (p + 1) t (some p) t := by
  have hprefix := hmatched.prefix hmark
  refine ⟨Nat.lt_succ_self p, hp, ?_, ?_⟩
  · rw [take_add_one_of_getElem? hp, ← List.append_nil (txt.take t)]
    exact hprefix.append (Matches.starEmpty Matches.nil)
  · rw [List.drop_eq_nil_of_le (by simp), List.drop_eq_nil_of_le (by simp)]
    exact Matches.nil

/-- Backtracking: the last `*` takes one more character, and the pattern after it starts
    again from the text after that character. -/
theorem LoopMatched.backtrack {pat txt : List Char} {p t sp mark : Nat}
    (hmatched : LoopMatched pat txt p t (some sp) mark) {d : Char} (hd : txt[mark]? = some d) :
    LoopMatched pat txt (sp + 1) (mark + 1) (some sp) (mark + 1) := by
  obtain ⟨-, hspstar, hbefore, -⟩ := hmatched
  refine ⟨Nat.lt_succ_self sp, hspstar, ?_, ?_⟩
  · rw [take_add_one_of_getElem? hspstar] at hbefore ⊢
    rw [take_add_one_of_getElem? hd]
    exact hbefore.star_snoc d
  · rw [List.drop_eq_nil_of_le (by simp), List.drop_eq_nil_of_le (by simp)]
    exact Matches.nil

/-- A loop started from a state that has matched only what it read accepts only texts in
    the language. The induction follows the loop's own recursion: each step keeps
    `LoopMatched`, and at the end of the text the rest of the pattern is all `*`. -/
theorem wildcardLoop_sound (pat txt : List Char) (p t : Nat) (star : Option Nat) (mark : Nat)
    (hmark : mark ≤ t) :
    LoopMatched pat txt p t star mark → t ≤ txt.length →
      wildcardLoop pat txt p t star mark hmark = true → Matches pat txt := by
  fun_induction wildcardLoop pat txt p t star mark hmark with
  | case1 p t star mark hmark ht hlit ih =>
    intro hmatched _ hloop
    obtain ⟨d, hd⟩ : ∃ d, txt[t]? = some d := ⟨txt[t], List.getElem?_eq_getElem ht⟩
    -- `pat[p]? = txt[t]?` with the text in range puts the pattern in range too
    obtain ⟨c, hc, hcd⟩ : ∃ c, pat[p]? = some c ∧ (c = '?' ∨ c = d) := by
      rcases hlit with hany | hsame
      · exact ⟨'?', hany, Or.inl rfl⟩
      · exact ⟨d, hsame.trans hd, Or.inr rfl⟩
    exact ih (hmatched.literal hmark hc hd hcd) (by omega) hloop
  | case2 p t star mark hmark ht _ hstar ih =>
    intro hmatched _ hloop
    exact ih (hmatched.star hmark hstar) ht.le hloop
  | case3 p t mark hmark ht _ _ sp ih =>
    intro hmatched _ hloop
    obtain ⟨d, hd⟩ : ∃ d, txt[mark]? = some d :=
      ⟨txt[mark], List.getElem?_eq_getElem (by omega)⟩
    exact ih (hmatched.backtrack hd) (by omega) hloop
  | case4 => intro _ _ hloop; cases hloop
  | case5 p t star mark hmark ht =>
    intro hmatched htlen hloop
    have htext : txt.take t = txt := List.take_of_length_le (by omega)
    -- the trailing run of `*` is the whole rest of the pattern
    have hrest : ∀ c ∈ pat.drop p, c = '*' := by
      have hstars := List.takeWhile_prefix (l := pat.drop p) (fun c => decide (c = '*'))
      have hlen : ((pat.drop p).takeWhile (· = '*')).length = (pat.drop p).length := by
        have := hstars.length_le
        simp only [beq_iff_eq] at hloop
        rw [List.length_drop]
        omega
      have hall := List.takeWhile_eq_self_iff.mp (hstars.eq_of_length hlen)
      intro c hc
      simpa using hall c hc
    have hprefix := hmatched.prefix hmark
    rw [htext] at hprefix
    rw [← List.take_append_drop p pat, ← List.append_nil txt]
    exact hprefix.append (Matches.of_forall_star hrest)

theorem wildcard_match_sound {pattern text : List Char}
    (h : wildcardMatch pattern text = true) : Matches pattern text :=
  wildcardLoop_sound pattern text 0 0 none 0 (Nat.le_refl 0) Matches.nil (Nat.zero_le _) h

theorem question_pattern_matches_itself :
    wildcardMatch "a?c".toList "a?c".toList = true ∧ Matches "a?c".toList "a?c".toList :=
  ⟨wildcardMatch_self _, wildcard_match_sound (wildcardMatch_self "a?c".toList)⟩

theorem wildcard_match_misses_star_text (c : Char) (rest : List Char) :
    Matches ['*'] ('*' :: c :: rest) ∧ wildcardMatch ['*'] ('*' :: c :: rest) = false := by
  refine ⟨Matches.star _, ?_⟩
  -- the pattern's `*` is taken as the text's `*`, and nothing is left for `c`
  rw [wildcardMatch, wildcardLoop, if_pos (by simp), if_pos (by simp), wildcardLoop,
    if_pos (by simp), if_neg (by simp), dif_neg (by simp)]

theorem star_pattern_rejects_star_b :
    Matches ['*'] ['*', 'b'] ∧ wildcardMatch ['*'] ['*', 'b'] = false :=
  wildcard_match_misses_star_text 'b' []

/-! ## Segments -/

/-- A path pattern without segments matches only the empty path. -/
theorem segmentsMatch_nil_iff {m : List Char → List Char → Prop} {path : List (List Char)} :
    SegmentsMatch m [] path ↔ path = [] := by
  constructor
  · intro h
    cases h
    rfl
  · rintro rfl
    exact .nil

/-- `**` at the head: some prefix of the path is taken whole. -/
theorem segmentsMatch_globstar_iff {m : List Char → List Char → Prop} {rest path : List (List Char)} :
    SegmentsMatch m ("**".toList :: rest) path ↔ ∃ i < path.length + 1, SegmentsMatch m rest (path.drop i) := by
  constructor
  · intro h
    cases h with
    | globstar taken hrest =>
      refine ⟨taken.length, by simp, ?_⟩
      rwa [List.drop_left]
    | segment hq => exact absurd rfl hq
  · rintro ⟨i, -, hrest⟩
    rw [← List.take_append_drop i path]
    exact .globstar _ hrest

/-- Any other pattern segment at the head takes the path's first segment. -/
theorem segmentsMatch_segment_iff {m : List Char → List Char → Prop} {q : List Char}
    (hq : q ≠ "**".toList) {rest path : List (List Char)} :
    SegmentsMatch m (q :: rest) path ↔
      ∃ t tail, path = t :: tail ∧ m q t ∧ SegmentsMatch m rest tail := by
  constructor
  · intro h
    cases h with
    | globstar => exact absurd rfl hq
    | segment _ hqt hrest => exact ⟨_, _, rfl, hqt, hrest⟩
  · rintro ⟨t, tail, rfl, hqt, hrest⟩
    exact .segment hq hqt hrest

/-- `segments_match` decides the segment-wise reading of a path pattern, over
    `wildcard_match` for one segment. The induction is on the pattern, as the function's
    own recursion. -/
theorem segments_match_iff_split (pattern path : List (List Char)) :
    segmentsMatch pattern path = true ↔
      SegmentsMatch (fun q t => wildcardMatch q t = true) pattern path := by
  induction pattern generalizing path with
  | nil =>
    rw [segmentsMatch, segmentsMatch_nil_iff, List.isEmpty_iff]
  | cons head rest ih =>
    by_cases hd : head = "**".toList
    · subst hd
      unfold segmentsMatch
      rw [if_pos rfl, segmentsMatch_globstar_iff]
      simp only [List.any_eq_true, List.mem_range, ih]
    · unfold segmentsMatch
      rw [if_neg hd, segmentsMatch_segment_iff hd]
      cases path with
      | nil => simp
      | cons ph ptail => simp [ih]

/-- What `segments_match` accepts is in the segment-wise language of the pattern. -/
theorem segmentsMatch_sound {pattern path : List (List Char)}
    (h : segmentsMatch pattern path = true) : SegmentsMatch Matches pattern path :=
  ((segments_match_iff_split pattern path).mp h).mono fun _ _ => wildcard_match_sound

end A3sBox.Oci
