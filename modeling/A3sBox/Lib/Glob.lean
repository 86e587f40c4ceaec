import Mathlib

/-
  Glob patterns over characters: `*` matches any run of characters, `?` any one
  character, and every other character itself.

  Model. `Matches pattern text` is the language of a pattern, given by its derivations:
  one rule for each way the head of the pattern can take the head of the text.

  Proved: `Matches.append` and `Matches.of_append`, that the matches of a concatenated
  pattern are the concatenated matches of its pieces, and from them `Matches.star_snoc`,
  that a pattern ending in `*` takes one more character. A matcher that walks a pattern
  and a text from the left is shown to find only real matches with these three.

  A path pattern is a list of segments, `**` standing for any number of whole path
  segments (`SegmentsMatch`), over any matcher of one segment.
-/

namespace A3sBox.Lib.Glob

/-- `text` is in the language of `pattern`. -/
inductive Matches : List Char → List Char → Prop
  | nil : Matches [] []
  /-- `*` stops taking characters. -/
  | starEmpty {pattern text : List Char} : Matches pattern text → Matches ('*' :: pattern) text
  /-- `*` takes one more character. -/
  | starCons {pattern text : List Char} {c : Char} :
      Matches ('*' :: pattern) text → Matches ('*' :: pattern) (c :: text)
  | any {pattern text : List Char} {c : Char} : Matches pattern text → Matches ('?' :: pattern) (c :: text)
  | char {pattern text : List Char} {c : Char} (hstar : c ≠ '*') (hany : c ≠ '?') :
      Matches pattern text → Matches (c :: pattern) (c :: text)

namespace Matches

/-- A lone `*` matches every text. -/
theorem star (text : List Char) : Matches ['*'] text := by
  induction text with
  | nil => exact starEmpty nil
  | cons c text ih => exact starCons ih

/-- A run of `*` matches the empty text. -/
theorem of_forall_star {pattern : List Char} (h : ∀ c ∈ pattern, c = '*') : Matches pattern [] := by
  induction pattern with
  | nil => exact nil
  | cons c pattern ih =>
    have hc : c = '*' := h c List.mem_cons_self
    subst hc
    exact starEmpty (ih fun d hd => h d (List.mem_cons_of_mem _ hd))

/-- One pattern character against one text character: `?`, or the character itself
    (a `*` taking exactly that character). -/
theorem single {p c : Char} (hp : p = '?' ∨ p = c) : Matches [p] [c] := by
  by_cases hstar : p = '*'
  · subst hstar
    exact star [c]
  · rcases hp with rfl | rfl
    · exact any nil
    · by_cases hany : p = '?'
      · subst hany
        exact any nil
      · exact char hstar hany nil

/-- Matches of consecutive pieces compose. -/
theorem append {p₁ p₂ t₁ t₂ : List Char} (h₁ : Matches p₁ t₁) (h₂ : Matches p₂ t₂) :
    Matches (p₁ ++ p₂) (t₁ ++ t₂) := by
  induction h₁ with
  | nil => exact h₂
  | starEmpty _ ih => exact starEmpty ih
  | starCons _ ih => exact starCons ih
  | any _ ih => exact any ih
  | char hstar hany _ ih => exact char hstar hany ih

/-- A match of a concatenated pattern splits into matches of its pieces. The induction is
    on the derivation, with the split point of the pattern generalized: a rule either
    acts inside the first piece, or the first piece is used up and the rest of the
    derivation belongs to the second. -/
theorem of_append {p₁ p₂ text : List Char} (h : Matches (p₁ ++ p₂) text) :
    ∃ t₁ t₂, text = t₁ ++ t₂ ∧ Matches p₁ t₁ ∧ Matches p₂ t₂ := by
  generalize hpattern : p₁ ++ p₂ = pattern at h
  induction h generalizing p₁ with
  | nil =>
    obtain ⟨rfl, rfl⟩ := List.append_eq_nil_iff.mp hpattern
    exact ⟨[], [], rfl, nil, nil⟩
  | @starEmpty pattern text hrest ih =>
    cases p₁ with
    | nil =>
      rw [List.nil_append] at hpattern
      subst hpattern
      exact ⟨[], text, rfl, nil, starEmpty hrest⟩
    | cons a p₁ =>
      rw [List.cons_append] at hpattern
      obtain ⟨rfl, hp⟩ := List.cons.inj hpattern
      obtain ⟨t₁, t₂, rfl, h₁, h₂⟩ := ih hp
      exact ⟨t₁, t₂, rfl, starEmpty h₁, h₂⟩
  | @starCons pattern text c hrest ih =>
    cases p₁ with
    | nil =>
      rw [List.nil_append] at hpattern
      subst hpattern
      exact ⟨[], c :: text, rfl, nil, starCons hrest⟩
    | cons a p₁ =>
      rw [List.cons_append] at hpattern
      obtain ⟨rfl, hp⟩ := List.cons.inj hpattern
      -- the `*` is still the head of the first piece
      have hsplit : ('*' :: p₁) ++ p₂ = '*' :: pattern := by rw [List.cons_append, hp]
      obtain ⟨t₁, t₂, rfl, h₁, h₂⟩ := ih hsplit
      exact ⟨c :: t₁, t₂, rfl, starCons h₁, h₂⟩
  | @any pattern text c hrest ih =>
    cases p₁ with
    | nil =>
      rw [List.nil_append] at hpattern
      subst hpattern
      exact ⟨[], c :: text, rfl, nil, any hrest⟩
    | cons a p₁ =>
      rw [List.cons_append] at hpattern
      obtain ⟨rfl, hp⟩ := List.cons.inj hpattern
      obtain ⟨t₁, t₂, rfl, h₁, h₂⟩ := ih hp
      exact ⟨c :: t₁, t₂, rfl, any h₁, h₂⟩
  | @char pattern text c hstar hany hrest ih =>
    cases p₁ with
    | nil =>
      rw [List.nil_append] at hpattern
      subst hpattern
      exact ⟨[], c :: text, rfl, nil, char hstar hany hrest⟩
    | cons a p₁ =>
      rw [List.cons_append] at hpattern
      obtain ⟨rfl, hp⟩ := List.cons.inj hpattern
      obtain ⟨t₁, t₂, rfl, h₁, h₂⟩ := ih hp
      exact ⟨_ :: t₁, t₂, rfl, char hstar hany h₁, h₂⟩

/-- A pattern that ends in `*` takes one more character at the end. -/
theorem star_snoc {pattern text : List Char} (h : Matches (pattern ++ ['*']) text) (c : Char) :
    Matches (pattern ++ ['*']) (text ++ [c]) := by
  obtain ⟨t₁, t₂, rfl, h₁, -⟩ := of_append h
  rw [List.append_assoc]
  exact append h₁ (star (t₂ ++ [c]))

end Matches

/-- A pattern of path segments against a path: `**` takes any number of whole segments,
    and every other pattern segment takes one segment that `m` accepts for it. -/
inductive SegmentsMatch (m : List Char → List Char → Prop) :
    List (List Char) → List (List Char) → Prop
  | nil : SegmentsMatch m [] []
  | globstar {rest path : List (List Char)} (taken : List (List Char)) :
      SegmentsMatch m rest path → SegmentsMatch m ("**".toList :: rest) (taken ++ path)
  | segment {q t : List Char} {rest path : List (List Char)} (hq : q ≠ "**".toList) :
      m q t → SegmentsMatch m rest path → SegmentsMatch m (q :: rest) (t :: path)

/-- A finer segment matcher gives a finer path matcher. -/
theorem SegmentsMatch.mono {m m' : List Char → List Char → Prop} (hm : ∀ q t, m q t → m' q t)
    {pattern path : List (List Char)} (h : SegmentsMatch m pattern path) :
    SegmentsMatch m' pattern path := by
  induction h with
  | nil => exact .nil
  | globstar taken _ ih => exact .globstar taken ih
  | segment hq hqt _ ih => exact .segment hq (hm _ _ hqt) ih

end A3sBox.Lib.Glob
