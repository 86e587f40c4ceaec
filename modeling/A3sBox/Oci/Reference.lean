import A3sBox.Core.Execution
import A3sBox.Lib.Fallible
import A3sBox.Lib.Str

/-
  OCI image references (`runtime/src/oci/reference.rs`).

  Model. `ImageReference::parse` trims the text, splits the digest off at the last `@`,
  the tag at the last `:` after the last `/` (or the last `:` when there is no `/`),
  and then takes the first `/`-separated component as the registry when it contains a
  `.` or a `:` or is `localhost`; otherwise the registry is `docker.io` and a name
  without `/` gets the prefix `library/`. Without a tag and a digest the tag is
  `latest`. Both branches of the tag split in the source, with a digest and without,
  are the same code, `splitTag`. Text is a `List Char`; `rfind` with the slices around
  it is `rsplitOnce`, and `find` is `splitOnce`.

  Proved:
  * `parse_canonical`: every reference `parse` returns is `Canonical`: its registry is a
    host with no `/`, its tag holds no `/` or `:`, its digest holds a `:` and no `@`, it
    has a digest when it has no tag, and no field holds an `@` when it has no digest;
  * `parse_fullReference`: `parse` reads every `Canonical` reference back from the text
    `full_reference` writes;
  * `parse_full_reference_idempotent`: so `parse(r.full_reference()) = Ok(r)` for every
    `r` that `parse` returns.
-/

namespace A3sBox.Oci

open A3sBox.Lib A3sBox.Lib.Str

def defaultRegistry : List Char := "docker.io".toList
def defaultTag : List Char := "latest".toList

/-- `BoxError::OciImageError(message)`, as displayed. -/
def ociImageError (message : String) : String := s!"OCI image error: {message}"

/-- `ImageReference`. -/
structure ImageReference where
  registry : String
  repository : String
  tag : Option String
  digest : Option String
deriving DecidableEq

/-- The digest split of `parse`: the text before the last `@`, and the digest after it,
    which must hold a `:`. -/
def splitDigest (reference : List Char) : Except String (List Char × Option (List Char)) :=
  match rsplitOnce '@' reference with
  | some (nameTag, digest) =>
    if ':' ∈ digest then .ok (nameTag, some digest)
    else
      let text := String.ofList reference
      .error (ociImageError s!"Invalid digest format in reference '{text}': expected algorithm:hex")
  | none => .ok (reference, none)

/-- The tag split of `parse`: the last `:` after the last `/`, or the last `:` when there
    is no `/`. -/
def splitTag (nameTag : List Char) : List Char × Option (List Char) :=
  match rsplitOnce '/' nameTag with
  | some (beforeSlash, afterSlash) =>
    match rsplitOnce ':' afterSlash with
    | some (beforeColon, tag) => (beforeSlash ++ '/' :: beforeColon, some tag)
    | none => (nameTag, none)
  | none =>
    match rsplitOnce ':' nameTag with
    | some (name, tag) => (name, some tag)
    | none => (nameTag, none)

/-- The test of `split_registry_repository` for a registry host name. -/
def isRegistryHost (first : List Char) : Bool :=
  first.contains '.' || first.contains ':' || first == "localhost".toList

/-- `split_registry_repository`. -/
def splitRegistryRepository (name : List Char) : Except String (List Char × List Char) :=
  let defaultRepository := if name.contains '/' then name else "library/".toList ++ name
  match splitOnce '/' name with
  | some (first, repo) =>
    if isRegistryHost first then
      if repo.isEmpty then
        let text := String.ofList name
        .error (ociImageError s!"Empty repository in reference '{text}'")
      else .ok (first, repo)
    else .ok (defaultRegistry, defaultRepository)
  | none => .ok (defaultRegistry, defaultRepository)

/-- `ImageReference::parse`. -/
def parse (reference : String) : Except String ImageReference := do
  let reference := (trimRust reference).toList
  ensure (!reference.isEmpty) (ociImageError "Empty image reference")
  let (nameTag, digest) ← splitDigest reference
  let (name, tag) := splitTag nameTag
  let (registry, repository) ← splitRegistryRepository name
  let tag := if tag.isNone && digest.isNone then some defaultTag else tag
  pure ⟨String.ofList registry, String.ofList repository, tag.map String.ofList,
    digest.map String.ofList⟩

/-- The characters `full_reference` writes. -/
def fullReferenceChars (r : ImageReference) : List Char :=
  r.registry.toList ++ '/' :: r.repository.toList ++ (r.tag.elim [] fun tag => ':' :: tag.toList) ++
    r.digest.elim [] fun digest => '@' :: digest.toList

/-- `full_reference`. -/
def fullReference (r : ImageReference) : String := String.ofList (fullReferenceChars r)

/-! The three parts of the text `full_reference` writes. -/

def nameChars (r : ImageReference) : List Char := r.registry.toList ++ '/' :: r.repository.toList

def tagSuffix (r : ImageReference) : List Char := r.tag.elim [] fun tag => ':' :: tag.toList

def digestSuffix (r : ImageReference) : List Char := r.digest.elim [] fun digest => '@' :: digest.toList

theorem fullReferenceChars_eq (r : ImageReference) :
    fullReferenceChars r = nameChars r ++ tagSuffix r ++ digestSuffix r := rfl

/-! ## Splitting at the last separator -/

/-- The last `/`-separated component of a name. -/
def lastComponent (name : List Char) : List Char :=
  match rsplitOnce '/' name with
  | some (_, after) => after
  | none => name

theorem lastComponent_of_not_mem {name : List Char} (h : '/' ∉ name) : lastComponent name = name := by
  rw [lastComponent, rsplitOnce_eq_none.mpr h]

/-- The last `/` of `xs ++ '/' :: ys` stands before the last component of `ys`. -/
theorem rsplitOnce_slash_append (xs ys : List Char) :
    ∃ before, rsplitOnce '/' (xs ++ '/' :: ys) = some (before, lastComponent ys) ∧
      before ++ '/' :: lastComponent ys = xs ++ '/' :: ys := by
  unfold lastComponent
  cases h : rsplitOnce '/' ys with
  | none => exact ⟨xs, rsplitOnce_eq_some.mpr ⟨rsplitOnce_eq_none.mp h, rfl⟩, rfl⟩
  | some split =>
    obtain ⟨ha, hys⟩ := rsplitOnce_eq_some.mp h
    refine ⟨xs ++ '/' :: split.1, rsplitOnce_eq_some.mpr ⟨ha, ?_⟩, ?_⟩ <;> simp [hys]

theorem lastComponent_append_slash (xs ys : List Char) :
    lastComponent (xs ++ '/' :: ys) = lastComponent ys := by
  obtain ⟨before, h, -⟩ := rsplitOnce_slash_append xs ys
  rw [lastComponent, h]

theorem rsplitOnce_append_of_not_mem {c : Char} {xs ys before after : List Char} (hys : c ∉ ys)
    (h : rsplitOnce c xs = some (before, after)) :
    rsplitOnce c (xs ++ ys) = some (before, after ++ ys) := by
  obtain ⟨hafter, rfl⟩ := rsplitOnce_eq_some.mp h
  exact rsplitOnce_eq_some.mpr ⟨by simp [hafter, hys], by simp⟩

theorem lastComponent_append_of_not_mem {xs ys : List Char} (hys : '/' ∉ ys) :
    lastComponent (xs ++ ys) = lastComponent xs ++ ys := by
  cases h : rsplitOnce '/' xs with
  | some split =>
    rw [lastComponent, rsplitOnce_append_of_not_mem hys h, lastComponent, h]
  | none =>
    have hxs := rsplitOnce_eq_none.mp h
    have hfree : '/' ∉ xs ++ ys := by
      rw [List.mem_append, not_or]
      exact ⟨hxs, hys⟩
    rw [lastComponent_of_not_mem hfree, lastComponent_of_not_mem hxs]

/-! ## The edges of a trimmed text -/

/-- Neither end of the text is whitespace. -/
def Trimmed (s : List Char) : Prop :=
  (∀ c ∈ s.head?, isRustWhitespace c = false) ∧ ∀ c ∈ s.getLast?, isRustWhitespace c = false

theorem head?_dropWhile {p : Char → Bool} {l : List Char} :
    ∀ c ∈ (l.dropWhile p).head?, p c = false := by
  intro c hc
  have hnot := List.head?_dropWhile_not p l
  rw [Option.mem_def.mp hc] at hnot
  exact hnot

theorem trimRust_trimmed (value : String) : Trimmed (trimRust value).toList := by
  rw [trimRust, String.toList_ofList]
  -- `trim` drops the whitespace in front, then the whitespace at the back
  refine ⟨?_, ?_⟩
  · intro c hc
    rw [List.head?_reverse] at hc
    have hsuffix : (value.toList.dropWhile isRustWhitespace).reverse.dropWhile isRustWhitespace <:+
        (value.toList.dropWhile isRustWhitespace).reverse := List.dropWhile_suffix _
    have hne : (value.toList.dropWhile isRustWhitespace).reverse.dropWhile isRustWhitespace ≠ [] := by
      rintro hnil
      rw [hnil] at hc
      cases hc
    rw [List.getLast?_eq_some_getLast hne, hsuffix.getLast hne, ← List.getLast?_eq_some_getLast,
      List.getLast?_reverse] at hc
    exact head?_dropWhile c hc
  · intro c hc
    rw [List.getLast?_reverse] at hc
    exact head?_dropWhile c hc

theorem dropWhile_of_head {p : Char → Bool} {l : List Char} (h : ∀ c ∈ l.head?, p c = false) :
    l.dropWhile p = l := by
  cases l with
  | nil => rfl
  | cons c cs => rw [List.dropWhile_cons, if_neg (by simpa using h c rfl)]

theorem trimRust_ofList {s : List Char} (h : Trimmed s) : (trimRust (String.ofList s)).toList = s := by
  have hback : s.reverse.dropWhile isRustWhitespace = s.reverse :=
    dropWhile_of_head (by rw [List.head?_reverse]; exact h.2)
  rw [trimRust, String.toList_ofList, String.toList_ofList, dropWhile_of_head h.1, hback,
    List.reverse_reverse]

theorem Trimmed.head_of_prefix {s x : List Char} (h : Trimmed s) (hx : x <+: s) (hne : x ≠ []) :
    ∀ c ∈ x.head?, isRustWhitespace c = false := by
  obtain ⟨t, rfl⟩ := hx
  rw [← List.head?_append_of_ne_nil _ hne]
  exact h.1

theorem Trimmed.last_of_suffix {s x : List Char} (h : Trimmed s) (hx : x <:+ s) :
    ∀ c ∈ x.getLast?, isRustWhitespace c = false := by
  obtain ⟨t, rfl⟩ := hx
  intro c hc
  have hne : x ≠ [] := by
    rintro rfl
    cases hc
  have hlast := h.2
  rw [List.getLast?_append_of_ne_nil _ hne] at hlast
  exact hlast c hc

/-! ## What each split returns -/

theorem splitDigest_eq_ok {reference nameTag : List Char} {digest : Option (List Char)}
    (h : splitDigest reference = .ok (nameTag, digest)) :
    (digest = none ∧ nameTag = reference ∧ '@' ∉ reference) ∨
      ∃ d, digest = some d ∧ reference = nameTag ++ '@' :: d ∧ '@' ∉ d ∧ ':' ∈ d := by
  unfold splitDigest at h
  cases hsplit : rsplitOnce '@' reference with
  | none =>
    rw [hsplit, Except.ok.injEq, Prod.mk.injEq] at h
    exact .inl ⟨h.2.symm, h.1.symm, rsplitOnce_eq_none.mp hsplit⟩
  | some split =>
    obtain ⟨hat, hreference⟩ := rsplitOnce_eq_some.mp hsplit
    rw [hsplit] at h
    dsimp only at h
    by_cases hcolon : ':' ∈ split.2
    · rw [if_pos hcolon, Except.ok.injEq, Prod.mk.injEq] at h
      obtain ⟨rfl, rfl⟩ := h
      exact .inr ⟨split.2, rfl, hreference, hat, hcolon⟩
    · rw [if_neg hcolon] at h
      cases h

/-- The name before the tag is a prefix of the text; a tag holds neither `/` nor `:`
    and ends the text; without a tag the last component holds no `:`. -/
theorem splitTag_spec {nameTag name : List Char} {tag : Option (List Char)}
    (h : splitTag nameTag = (name, tag)) :
    name <+: nameTag ∧ (∀ t, tag = some t → '/' ∉ t ∧ ':' ∉ t ∧ t <:+ nameTag) ∧
      (tag = none → name = nameTag ∧ ':' ∉ lastComponent nameTag) := by
  unfold splitTag at h
  cases hslash : rsplitOnce '/' nameTag with
  | some slash =>
    obtain ⟨hslashFree, hnameTag⟩ := rsplitOnce_eq_some.mp hslash
    have hlast : lastComponent nameTag = slash.2 := by rw [lastComponent, hslash]
    rw [hslash] at h
    dsimp only at h
    cases hcolon : rsplitOnce ':' slash.2 with
    | some colon =>
      obtain ⟨hcolonFree, hafter⟩ := rsplitOnce_eq_some.mp hcolon
      rw [hcolon, Prod.mk.injEq] at h
      obtain ⟨rfl, rfl⟩ := h
      -- `nameTag` is the name, a `:` and the tag
      have hsplit : nameTag = (slash.1 ++ '/' :: colon.1) ++ ':' :: colon.2 := by
        rw [hnameTag, hafter]
        simp
      refine ⟨⟨':' :: colon.2, hsplit.symm⟩, ?_, fun h => nomatch h⟩
      intro t ht
      cases ht
      refine ⟨fun hmem => hslashFree (by rw [hafter]; simp [hmem]), hcolonFree,
        ⟨slash.1 ++ '/' :: colon.1 ++ [':'], by rw [hsplit]; simp⟩⟩
    | none =>
      rw [hcolon, Prod.mk.injEq] at h
      obtain ⟨rfl, rfl⟩ := h
      exact ⟨List.prefix_refl _, (fun t ht => nomatch ht),
        fun _ => ⟨rfl, by rw [hlast]; exact rsplitOnce_eq_none.mp hcolon⟩⟩
  | none =>
    have hslashFree := rsplitOnce_eq_none.mp hslash
    rw [hslash] at h
    dsimp only at h
    cases hcolon : rsplitOnce ':' nameTag with
    | some colon =>
      obtain ⟨hcolonFree, hnameTag⟩ := rsplitOnce_eq_some.mp hcolon
      rw [hcolon, Prod.mk.injEq] at h
      obtain ⟨rfl, rfl⟩ := h
      refine ⟨⟨':' :: colon.2, hnameTag.symm⟩, ?_, fun h => nomatch h⟩
      intro t ht
      cases ht
      refine ⟨fun hmem => hslashFree (by rw [hnameTag]; simp [hmem]), hcolonFree,
        ⟨colon.1 ++ [':'], by rw [hnameTag]; simp⟩⟩
    | none =>
      rw [hcolon, Prod.mk.injEq] at h
      obtain ⟨rfl, rfl⟩ := h
      exact ⟨List.prefix_refl _, (fun t ht => nomatch ht),
        fun _ => ⟨rfl, by rw [lastComponent_of_not_mem hslashFree]; exact rsplitOnce_eq_none.mp hcolon⟩⟩

theorem isRegistryHost_defaultRegistry : isRegistryHost defaultRegistry = true := by decide

/-- The registry is a host with no `/`, `docker.io` or the first component of the name;
    the repository is not empty, keeps the name's last component, and holds only
    characters of the name and of `library/`. -/
theorem splitRegistryRepository_spec {name registry repository : List Char}
    (h : splitRegistryRepository name = .ok (registry, repository)) :
    isRegistryHost registry = true ∧ '/' ∉ registry ∧ repository ≠ [] ∧
      lastComponent repository = lastComponent name ∧
      (registry = defaultRegistry ∨ registry <+: name) ∧
      ∀ c ∈ repository, c ∈ name ∨ c ∈ "library/".toList := by
  -- the default split: `docker.io`, and the name itself or `library/` before it
  have hdefault : (registry, repository) = (defaultRegistry,
        if name.contains '/' then name else "library/".toList ++ name) →
      isRegistryHost registry = true ∧ '/' ∉ registry ∧ repository ≠ [] ∧
        lastComponent repository = lastComponent name ∧
        (registry = defaultRegistry ∨ registry <+: name) ∧
        ∀ c ∈ repository, c ∈ name ∨ c ∈ "library/".toList := by
    intro hpair
    rw [Prod.mk.injEq] at hpair
    obtain ⟨rfl, rfl⟩ := hpair
    refine ⟨isRegistryHost_defaultRegistry, by decide, ?_, ?_, .inl rfl, ?_⟩
    · split
      · rename_i hslash
        rintro rfl
        cases hslash
      · simp
    · split
      · rfl
      · rename_i hslash
        have hfree : '/' ∉ name := by simpa using hslash
        rw [show "library/".toList ++ name = "library".toList ++ '/' :: name from rfl,
          lastComponent_append_slash]
    · intro c hc
      split at hc
      · exact .inl hc
      · rcases List.mem_append.mp hc with hlib | hname
        · exact .inr hlib
        · exact .inl hname
  unfold splitRegistryRepository at h
  cases hfirst : splitOnce '/' name with
  | none =>
    rw [hfirst, Except.ok.injEq] at h
    exact hdefault h.symm
  | some split =>
    obtain ⟨hslashFree, hname⟩ := splitOnce_eq_some.mp hfirst
    rw [hfirst] at h
    dsimp only at h
    by_cases hhost : isRegistryHost split.1 = true
    · rw [if_pos hhost] at h
      by_cases hempty : split.2.isEmpty = true
      · rw [if_pos hempty] at h
        cases h
      · rw [if_neg hempty, Except.ok.injEq, Prod.mk.injEq] at h
        obtain ⟨rfl, rfl⟩ := h
        refine ⟨hhost, hslashFree, by simpa using hempty, ?_, .inr ⟨'/' :: split.2, hname.symm⟩, ?_⟩
        · rw [hname, lastComponent_append_slash]
        · intro c hc
          exact .inl (by rw [hname]; simp [hc])
    · rw [if_neg hhost, Except.ok.injEq] at h
      exact hdefault h.symm

/-! ## The references `parse` returns -/

/-- What holds of every reference `parse` returns: it is what `parse` reads back from
    the text `full_reference` writes. -/
structure Canonical (r : ImageReference) : Prop where
  registry_host : isRegistryHost r.registry.toList = true
  registry_no_slash : '/' ∉ r.registry.toList
  registry_head : ∀ c ∈ r.registry.toList.head?, isRustWhitespace c = false
  repository_ne : r.repository.toList ≠ []
  tag_chars : ∀ t, r.tag = some t → '/' ∉ t.toList ∧ ':' ∉ t.toList
  untagged : r.tag = none → r.digest ≠ none ∧ ':' ∉ lastComponent r.repository.toList
  digest_chars : ∀ d, r.digest = some d →
    ':' ∈ d.toList ∧ '@' ∉ d.toList ∧ ∀ c ∈ d.toList.getLast?, isRustWhitespace c = false
  undigested : r.digest = none → '@' ∉ r.registry.toList ∧ '@' ∉ r.repository.toList ∧
    ∀ t, r.tag = some t → '@' ∉ t.toList ∧ ∀ c ∈ t.toList.getLast?, isRustWhitespace c = false

-- The defaults `parse` falls back on begin and end with no whitespace and hold no `@`.
theorem defaultRegistry_head : ∀ c ∈ defaultRegistry.head?, isRustWhitespace c = false := by
  have hhead : defaultRegistry.head? = some 'd' := by decide
  rw [hhead]
  intro c hc
  cases hc
  decide

theorem defaultTag_chars : '/' ∉ defaultTag ∧ ':' ∉ defaultTag ∧ '@' ∉ defaultTag := by decide

theorem defaultTag_last : ∀ c ∈ defaultTag.getLast?, isRustWhitespace c = false := by
  have hlast : defaultTag.getLast? = some 't' := by decide
  rw [hlast]
  intro c hc
  cases hc
  decide

theorem isRegistryHost_ne_nil {first : List Char} (h : isRegistryHost first = true) : first ≠ [] := by
  rintro rfl
  cases h

/-- The steps of a successful `parse`. -/
theorem parse_eq_ok {s : String} {r : ImageReference} (h : parse s = .ok r) :
    ∃ nameTag digest name tag registry repository,
      (trimRust s).toList ≠ [] ∧
      splitDigest (trimRust s).toList = .ok (nameTag, digest) ∧
      splitTag nameTag = (name, tag) ∧
      splitRegistryRepository name = .ok (registry, repository) ∧
      r = ⟨String.ofList registry, String.ofList repository,
        (if tag.isNone && digest.isNone then some defaultTag else tag).map String.ofList,
        digest.map String.ofList⟩ := by
  unfold parse at h
  obtain ⟨u, hne, h⟩ := bind_eq_ok.mp h
  obtain ⟨⟨nameTag, digest⟩, hdigest, h⟩ := bind_eq_ok.mp h
  obtain ⟨⟨registry, repository⟩, hsplit, h⟩ := bind_eq_ok.mp h
  refine ⟨nameTag, digest, (splitTag nameTag).1, (splitTag nameTag).2, registry, repository,
    ?_, hdigest, rfl, hsplit, (pure_eq_ok.mp h).symm⟩
  simpa using hne

/-- The tag `parse` returns: `latest` in place of no tag and no digest. -/
theorem defaultedTag_eq_some {tag digest : Option (List Char)} {t : List Char}
    (h : (if tag.isNone && digest.isNone then some defaultTag else tag) = some t) :
    (tag = none ∧ t = defaultTag) ∨ tag = some t := by
  cases tag with
  | none =>
    cases digest with
    | none => exact .inl ⟨rfl, (Option.some.inj h).symm⟩
    | some _ => cases h
  | some _ => exact .inr h

theorem defaultedTag_eq_none {tag digest : Option (List Char)}
    (h : (if tag.isNone && digest.isNone then some defaultTag else tag) = none) :
    tag = none ∧ digest ≠ none := by
  cases tag with
  | none =>
    cases digest with
    | none => cases h
    | some _ => exact ⟨rfl, fun h => nomatch h⟩
  | some _ => cases h

/-- Every reference `parse` returns is `Canonical`. -/
theorem parse_canonical {s : String} {r : ImageReference} (h : parse s = .ok r) : Canonical r := by
  obtain ⟨nameTag, digest, name, tag, registry, repository, hne, hdigest, htag, hsplit, rfl⟩ :=
    parse_eq_ok h
  have htrim := trimRust_trimmed s
  generalize (trimRust s).toList = reference at hne hdigest htrim
  obtain ⟨hnamePrefix, htagSome, htagNone⟩ := splitTag_spec htag
  obtain ⟨hhost, hslash, hrepoNe, hlast, hregistry, hrepoChars⟩ :=
    splitRegistryRepository_spec hsplit
  -- the name, and so a registry that is not `docker.io`, begins the reference
  have hnameRef : name <+: reference := by
    rcases splitDigest_eq_ok hdigest with ⟨-, rfl, -⟩ | ⟨d, -, rfl, -, -⟩
    · exact hnamePrefix
    · exact hnamePrefix.trans (List.prefix_append _ _)
  constructor
  case registry_host => rw [String.toList_ofList]; exact hhost
  case registry_no_slash => rw [String.toList_ofList]; exact hslash
  case registry_head =>
    rw [String.toList_ofList]
    rcases hregistry with rfl | hstart
    · exact defaultRegistry_head
    · exact htrim.head_of_prefix (hstart.trans hnameRef) (isRegistryHost_ne_nil hhost)
  case repository_ne => rw [String.toList_ofList]; exact hrepoNe
  case tag_chars =>
    intro t ht
    obtain ⟨t', ht', rfl⟩ := Option.map_eq_some_iff.mp ht
    rw [String.toList_ofList]
    rcases defaultedTag_eq_some ht' with ⟨-, rfl⟩ | hsome
    · exact ⟨defaultTag_chars.1, defaultTag_chars.2.1⟩
    · exact ⟨(htagSome t' hsome).1, (htagSome t' hsome).2.1⟩
  case untagged =>
    intro ht
    obtain ⟨hnone, hdigestSome⟩ := defaultedTag_eq_none (Option.map_eq_none_iff.mp ht)
    obtain ⟨rfl, hcolon⟩ := htagNone hnone
    refine ⟨fun hd => hdigestSome (Option.map_eq_none_iff.mp hd), ?_⟩
    rw [String.toList_ofList, hlast]
    exact hcolon
  case digest_chars =>
    intro d hd
    obtain ⟨d', hd', rfl⟩ := Option.map_eq_some_iff.mp hd
    rw [String.toList_ofList]
    rcases splitDigest_eq_ok hdigest with ⟨hnone, -, -⟩ | ⟨d'', hsome, rfl, hat, hcolon⟩
    · rw [hnone] at hd'
      cases hd'
    · rw [hsome] at hd'
      cases hd'
      -- the digest ends the trimmed reference
      have hsuffix : d' <:+ nameTag ++ '@' :: d' := ⟨nameTag ++ ['@'], by simp⟩
      exact ⟨hcolon, hat, htrim.last_of_suffix hsuffix⟩
  case undigested =>
    intro hd
    have hnone := Option.map_eq_none_iff.mp hd
    rcases splitDigest_eq_ok hdigest with ⟨-, rfl, hat⟩ | ⟨d, hsome, -⟩
    · have hfree : ∀ x, x <+: nameTag ∨ x <:+ nameTag → '@' ∉ x := by
        rintro x (hx | hx) hmem
        · exact hat (hx.subset hmem)
        · exact hat (hx.subset hmem)
      refine ⟨?_, ?_, ?_⟩
      · rw [String.toList_ofList]
        rcases hregistry with rfl | hstart
        · decide
        · exact hfree _ (.inl (hstart.trans hnameRef))
      · rw [String.toList_ofList]
        intro hmem
        rcases hrepoChars '@' hmem with hname | hlib
        · exact hat (hnameRef.subset hname)
        · exact absurd hlib (by decide)
      · intro t ht
        obtain ⟨t', ht', rfl⟩ := Option.map_eq_some_iff.mp ht
        rw [String.toList_ofList]
        rcases defaultedTag_eq_some ht' with ⟨-, rfl⟩ | hsome
        · exact ⟨defaultTag_chars.2.2, defaultTag_last⟩
        · have hsuffix := (htagSome t' hsome).2.2
          exact ⟨hfree _ (.inr hsuffix), htrim.last_of_suffix hsuffix⟩
    · rw [hsome] at hnone
      cases hnone

/-! ## Reading back the text `full_reference` writes -/

section Canonical

variable {r : ImageReference} (hc : Canonical r)
include hc

theorem tag_isSome_of_digest_none (hd : r.digest = none) : ∃ t, r.tag = some t := by
  cases ht : r.tag with
  | some t => exact ⟨t, rfl⟩
  | none => exact absurd hd (hc.untagged ht).1

theorem fullReferenceChars_trimmed : Trimmed (fullReferenceChars r) := by
  have hreg : r.registry.toList ≠ [] := isRegistryHost_ne_nil hc.registry_host
  constructor
  · -- the text begins with the registry
    rw [fullReferenceChars_eq, nameChars, List.append_assoc, List.append_assoc,
      List.head?_append_of_ne_nil _ hreg]
    exact hc.registry_head
  · -- and ends with the digest, or with the tag when there is no digest
    rw [fullReferenceChars_eq]
    cases hd : r.digest with
    | some d =>
      obtain ⟨hcolon, -, hlast⟩ := hc.digest_chars d hd
      have hne : d.toList ≠ [] := List.ne_nil_of_mem hcolon
      rw [digestSuffix, hd, Option.elim_some, ← List.singleton_append,
        List.getLast?_append_of_ne_nil _ (by simp), List.getLast?_append_of_ne_nil _ hne]
      exact hlast
    | none =>
      obtain ⟨t, ht⟩ := tag_isSome_of_digest_none hc hd
      obtain ⟨-, -, htag⟩ := hc.undigested hd
      rw [digestSuffix, hd, Option.elim_none, List.append_nil, tagSuffix, ht, Option.elim_some,
        List.getLast?_append_of_ne_nil _ (List.cons_ne_nil _ _)]
      cases htl : t.toList with
      | nil =>
        intro c hc
        cases hc
        decide
      | cons x xs =>
        rw [← htl, ← List.singleton_append, List.getLast?_append_of_ne_nil _ (by simp [htl])]
        exact (htag t ht).2

theorem splitDigest_fullReferenceChars :
    splitDigest (fullReferenceChars r) = .ok (nameChars r ++ tagSuffix r, r.digest.map String.toList) := by
  rw [fullReferenceChars_eq]
  cases hd : r.digest with
  | some d =>
    obtain ⟨hcolon, hat, -⟩ := hc.digest_chars d hd
    rw [digestSuffix, hd, Option.elim_some, splitDigest, rsplitOnce_eq_some.mpr ⟨hat, rfl⟩]
    exact if_pos hcolon
  | none =>
    obtain ⟨hreg, hrepo, htag⟩ := hc.undigested hd
    -- no `@` in the text: not in the registry, the repository or the tag
    have hfree : '@' ∉ nameChars r ++ tagSuffix r := by
      rw [nameChars, tagSuffix]
      cases ht : r.tag with
      | some t => simpa [hreg, hrepo] using (htag t ht).1
      | none => simpa using ⟨hreg, hrepo⟩
    rw [digestSuffix, hd, Option.elim_none, List.append_nil, splitDigest, rsplitOnce_eq_none.mpr hfree]
    rfl

theorem splitTag_nameChars :
    splitTag (nameChars r ++ tagSuffix r) = (nameChars r, r.tag.map String.toList) := by
  unfold nameChars tagSuffix
  cases ht : r.tag with
  | some t =>
    obtain ⟨hslash, hcolon⟩ := hc.tag_chars t ht
    -- the last `/` is in the name, so the last component ends with the tag
    have htail : '/' ∉ ':' :: t.toList := by simpa using hslash
    obtain ⟨before, hsplit, hbefore⟩ :=
      rsplitOnce_slash_append r.registry.toList (r.repository.toList ++ ':' :: t.toList)
    rw [lastComponent_append_of_not_mem htail] at hsplit hbefore
    have hname : before ++ '/' :: lastComponent r.repository.toList =
        r.registry.toList ++ '/' :: r.repository.toList := by
      have happend : (before ++ '/' :: lastComponent r.repository.toList) ++ ':' :: t.toList =
          (r.registry.toList ++ '/' :: r.repository.toList) ++ ':' :: t.toList := by
        simpa using hbefore
      exact List.append_cancel_right happend
    rw [Option.elim_some, List.append_assoc, List.cons_append, splitTag, hsplit]
    dsimp only
    rw [rsplitOnce_eq_some.mpr ⟨hcolon, rfl⟩]
    dsimp only
    rw [hname]
    rfl
  | none =>
    obtain ⟨-, hcolon⟩ := hc.untagged ht
    obtain ⟨before, hsplit, -⟩ := rsplitOnce_slash_append r.registry.toList r.repository.toList
    rw [Option.elim_none, List.append_nil, splitTag, hsplit]
    dsimp only
    rw [rsplitOnce_eq_none.mpr hcolon]
    rfl

theorem splitRegistryRepository_nameChars :
    splitRegistryRepository (nameChars r) = .ok (r.registry.toList, r.repository.toList) := by
  have hempty : r.repository.toList.isEmpty = false := List.isEmpty_eq_false_iff.mpr hc.repository_ne
  rw [nameChars, splitRegistryRepository, splitOnce_eq_some.mpr ⟨hc.registry_no_slash, rfl⟩]
  dsimp only
  rw [if_pos hc.registry_host, hempty]
  rfl

/-- `parse` reads every `Canonical` reference back from its `full_reference`. -/
theorem parse_fullReference : parse (fullReference r) = .ok r := by
  have hne : (fullReferenceChars r).isEmpty = false := by
    rw [List.isEmpty_eq_false_iff, fullReferenceChars_eq, nameChars]
    simp
  -- a reference with neither a tag nor a digest is not `Canonical`
  have hdefault :
      ((r.tag.map String.toList).isNone && (r.digest.map String.toList).isNone) = false := by
    cases ht : r.tag with
    | some t => rfl
    | none =>
      obtain ⟨hd, -⟩ := hc.untagged ht
      cases hd' : r.digest with
      | some d => rfl
      | none => exact absurd hd' hd
  unfold parse
  rw [fullReference, trimRust_ofList (fullReferenceChars_trimmed hc)]
  dsimp only
  rw [hne, splitDigest_fullReferenceChars hc]
  simp only [Bool.not_false, ensure_true, ok_bind]
  rw [splitTag_nameChars hc]
  dsimp only
  rw [splitRegistryRepository_nameChars hc, ok_bind, hdefault]
  cases r
  simp

end Canonical

theorem parse_full_reference_idempotent {s : String} {r : ImageReference} (h : parse s = .ok r) :
    parse (fullReference r) = .ok r :=
  parse_fullReference (parse_canonical h)

theorem nginx_reference_idempotent :
    parse "nginx" = .ok ⟨"docker.io", "library/nginx", some "latest", none⟩ ∧
      parse (fullReference ⟨"docker.io", "library/nginx", some "latest", none⟩) =
        .ok ⟨"docker.io", "library/nginx", some "latest", none⟩ :=
  have hparse : parse "nginx" = .ok ⟨"docker.io", "library/nginx", some "latest", none⟩ := by
    decide +kernel
  ⟨hparse, parse_full_reference_idempotent hparse⟩

end A3sBox.Oci
