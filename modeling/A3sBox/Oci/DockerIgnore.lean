import A3sBox.Oci.BuildCache

/-
  `.dockerignore` and the two ways a build reads the context through it
  (`runtime/src/oci/build/dockerignore.rs`, `engine/handlers.rs`, `engine/utils.rs`).

  Model. `DockerIgnore::parse` reads one rule per line; `is_excluded` lets the last
  rule whose segments match the path decide; `segments_match` matches a rule segment by
  segment, with `**` for any number of segments, and `wildcard_match` is the source's
  two-pointer loop, whose invariant `mark ≤ t` is an argument of the loop. A `Path` is
  the list of its `Normal` components, which is all that `is_excluded` reads of it. The
  build context is a directory listing as `read_dir` gives it (`Listing`), without
  symlinks, so `assert_within` always holds and is left out. The handlers return the
  context paths of the files they copy: `COPY` (`handle_copy`, one source after glob
  expansion, `ADD` of a non-archive is the same) and the source of a
  `RUN --mount=type=bind` (`run_bind_mount_source`, then `copy_run_bind_mount_source`).
  Both walk a directory with `copy_dir_filtered`, which skips an excluded entry and so
  its whole subtree. The destinations in the rootfs are not modelled.

  Proved:
  * `mem_copyDirFiltered`: the walk copies exactly the files of the directory none of
    whose paths below the starting point is excluded;
  * `copy_skips_ignored_below_source`: a `COPY` or a bind mount of a source whose own
    path is not `Ignored` copies no `Ignored` file;
  * `copy_context_skips_ignored`: `COPY .` copies exactly the context's files that are
    not `Ignored`, excluded themselves or below an excluded directory;
  * `copy_exposes_ignored_path`: with the one rule `d` and a context holding `d/f`, the
    path `d/f` is `Ignored`, yet `COPY d/f`, `COPY d` and a bind mount of `d/f` all
    copy it: the checks test the named path and what lies below it, never its
    ancestors, and a named directory is not tested at all.
-/

namespace A3sBox.Oci

open A3sBox.Lib A3sBox.Lib.Str

/-- A rule of `.dockerignore`. -/
structure Rule where
  segments : List (List Char)
  negated : Bool
deriving DecidableEq

structure DockerIgnore where
  rules : List Rule
deriving DecidableEq

/-! ## Matching -/

/-- The loop of `wildcard_match`: `p` and `t` index the pattern and the text, `star` is
    the last `*` seen and `mark` the text position it was tried from. -/
def wildcardLoop (pat txt : List Char) (p t : Nat) (star : Option Nat) (mark : Nat)
    (hmark : mark ≤ t) : Bool :=
  if t < txt.length then
    -- `p < pat.len() && (pat[p] == '?' || pat[p] == txt[t])`: with `t` in range,
    -- `pat[p]? = txt[t]?` already puts `p` in range
    if pat[p]? = some '?' ∨ pat[p]? = txt[t]? then
      wildcardLoop pat txt (p + 1) (t + 1) star mark (Nat.le_succ_of_le hmark)
    else if hstar : pat[p]? = some '*' then
      wildcardLoop pat txt (p + 1) t (some p) t (Nat.le_refl t)
    else
      match star with
      | some sp => wildcardLoop pat txt (sp + 1) (mark + 1) star (mark + 1) (Nat.le_refl _)
      | none => false
  else
    -- the trailing `*`s of the pattern match the empty rest of the text
    p + ((pat.drop p).takeWhile (· = '*')).length == pat.length
termination_by (txt.length - mark, txt.length - t, pat.length - p)
decreasing_by
  -- a matched character: `t` moves on, `mark` stays
  · exact Prod.Lex.right _ (Prod.Lex.left _ _ (by omega))
  -- a `*`: `mark` moves up to `t`, or stays at it and `p` moves on
  · have hp : p < pat.length := (List.getElem?_eq_some_iff.mp hstar).1
    rcases Nat.lt_or_eq_of_le hmark with hlt | heq
    · exact Prod.Lex.left _ _ (by omega)
    · subst heq
      exact Prod.Lex.right _ (Prod.Lex.right _ (by omega))
  -- backtracking: the `*` takes one more character
  · exact Prod.Lex.left _ _ (by omega)

/-- `wildcard_match`: `?` matches one character and `*` any run of them. -/
def wildcardMatch (pattern text : List Char) : Bool :=
  wildcardLoop pattern text 0 0 none 0 (Nat.le_refl 0)

/-- `segments_match`: `**` takes any number of path segments. -/
def segmentsMatch : List (List Char) → List (List Char) → Bool
  | [], path => path.isEmpty
  | head :: rest, path =>
    if head = "**".toList then
      (List.range (path.length + 1)).any fun i => segmentsMatch rest (path.drop i)
    else
      match path with
      | ph :: ptail => wildcardMatch head ph && segmentsMatch rest ptail
      | [] => false

namespace DockerIgnore

/-- `trim_matches('/')`. -/
def trimSlashes (s : List Char) : List Char :=
  ((s.dropWhile (· = '/')).reverse.dropWhile (· = '/')).reverse

/-- One line of `DockerIgnore::parse`: blank lines and `#` comments give no rule, a
    leading `!` negates, and a leading `./` and the `/`s at both ends are dropped. -/
def parseLine (raw : List Char) : Option Rule :=
  let line := trimChars raw
  if line.isEmpty || line.head? == some '#' then none
  else
    let (negated, body) : Bool × List Char :=
      match line with
      | '!' :: rest => (true, trimChars rest)
      | _ => (false, line)
    let cleaned := trimSlashes ((stripPrefix "./".toList body).getD body)
    if cleaned.isEmpty then none else some ⟨cleaned.splitOn '/', negated⟩

/-- `DockerIgnore::parse`. `lines` also drops a `\r` before each `\n` and the empty line
    after a final `\n`; both are trimmed or skipped by `parseLine`, so splitting at
    `\n` reads the same rules. -/
def parse (contents : List Char) : DockerIgnore :=
  ⟨(contents.splitOn '\n').filterMap parseLine⟩

/-- `DockerIgnore::is_excluded`: the last rule that matches decides. -/
def isExcluded (ignore : DockerIgnore) (rel : List (List Char)) : Bool :=
  ignore.rules.foldl (fun excluded rule => if segmentsMatch rule.segments rel then !rule.negated else excluded)
    false

end DockerIgnore

/-- `ignore.is_some_and(|rules| rules.is_excluded(rel))`: a `COPY --from` has no rules. -/
def excludedBy (ignore : Option DockerIgnore) (rel : List (List Char)) : Bool :=
  match ignore with
  | some rules => rules.isExcluded rel
  | none => false

/-- The claim's notion: a path is ignored when it or a directory above it is excluded,
    since a matched directory prunes its whole subtree. -/
def Ignored (ignore : Option DockerIgnore) (p : List (List Char)) : Prop :=
  ∃ pre, pre <+: p ∧ pre ≠ [] ∧ excludedBy ignore pre = true

/-! ## The build context -/

/-- A directory of the build context as `read_dir` lists it, with each entry's name. -/
inductive Listing
  | empty
  | file (name : List Char) (rest : Listing)
  | dir (name : List Char) (entries : Listing) (rest : Listing)
deriving DecidableEq

/-- What a path names in the context. -/
inductive Found
  | file
  | dir (entries : Listing)
deriving DecidableEq

/-- What a relative path names in a directory: the first entry of each name is taken,
    and a file has nothing below it. -/
def Listing.find : Listing → List (List Char) → Option Found
  | l, [] => some (.dir l)
  | .empty, _ :: _ => none
  | .file n rest, name :: path =>
    if n = name then (if path = [] then some .file else none) else rest.find (name :: path)
  | .dir n entries rest, name :: path =>
    if n = name then entries.find path else rest.find (name :: path)

/-- The paths of the files in a directory, relative to it. -/
def Listing.files : Listing → List (List (List Char))
  | .empty => []
  | .file name rest => [name] :: rest.files
  | .dir name entries rest => entries.files.map (name :: ·) ++ rest.files

/-- The `Normal` components of a path given as text: `Path::components` skips empty
    segments and `.`, and `is_excluded` and `normalize_rel_components` drop `..`. -/
def pathSegments (path : List Char) : List (List Char) :=
  (path.splitOn '/').filter fun segment => !segment.isEmpty && segment != ['.'] && segment != ['.', '.']

/-- `copy_dir_filtered` and `copy_dir_filtered_to_guest_rootfs`, as the context paths of
    the files they copy: an excluded entry is skipped, a directory walked into. -/
def copyDirFiltered (ignore : Option DockerIgnore) (relBase : List (List Char)) :
    Listing → List (List (List Char))
  | .empty => []
  | .file name rest =>
    let entryRel := relBase ++ [name]
    (if excludedBy ignore entryRel then [] else [entryRel]) ++ copyDirFiltered ignore relBase rest
  | .dir name entries rest =>
    let entryRel := relBase ++ [name]
    (if excludedBy ignore entryRel then [] else copyDirFiltered ignore entryRel entries) ++
      copyDirFiltered ignore relBase rest

/-! ## The handlers -/

/-- `reject_path_traversal`. -/
def rejectPathTraversal (path : List Char) : Except String Unit :=
  if (path.splitOn '/').any (· == "..".toList) then
    .error (buildError s!"COPY/ADD path '{String.ofList path}' contains '..' (forbidden: it would escape the build context / rootfs)")
  else .ok ()

/-- One source of `handle_copy`: the files of the context it copies. The exclusion
    check is made only when the source is a file. -/
def copySource (ignore : Option DockerIgnore) (context : Listing) (contextDir : String)
    (src : List Char) : Except String (List (List (List Char))) := do
  rejectPathTraversal src
  let rel := if src = ['.'] then [] else src.dropWhile (· = '/')
  match context.find (pathSegments (src.dropWhile (· = '/'))) with
  | none =>
    throw (buildError s!"COPY source not found: {String.ofList src} (in context {contextDir})")
  | some .file =>
    if !rel.isEmpty && excludedBy ignore (pathSegments rel) then
      throw (buildError s!"COPY source not found: {String.ofList src} (excluded by .dockerignore)")
    else pure [pathSegments rel]
  | some (.dir entries) => pure (copyDirFiltered ignore (pathSegments rel) entries)

/-- `normalized_context_rel`. -/
def normalizedContextRel (path : List Char) : List (List Char) :=
  let trimmed := path.dropWhile (· = '/')
  if trimmed = ['.'] then [] else pathSegments trimmed

/-- `run_bind_mount_source` and then `copy_run_bind_mount_source`: the files of the
    source a `RUN --mount=type=bind` makes visible. -/
def runBindMountSource (ignore : Option DockerIgnore) (sourceRoot : Listing) (sourceLabel : String)
    (source : List Char) : Except String (List (List (List Char))) := do
  rejectPathTraversal source
  let rel := normalizedContextRel source
  match sourceRoot.find rel with
  | none =>
    throw (buildError s!"RUN bind mount source not found: {String.ofList source} (in {sourceLabel})")
  | some found =>
    if !rel.isEmpty && excludedBy ignore rel then
      throw (buildError s!"RUN bind mount source not found: {String.ofList source} (excluded by .dockerignore)")
    else
      match found with
      | .dir entries => pure (copyDirFiltered ignore rel entries)
      | .file => pure [rel]

/-! ## A rule of one segment matches itself -/

theorem wildcardLoop_self (s : List Char) (k : Nat) (star : Option Nat) (mark : Nat)
    (hmark : mark ≤ k) (hk : k ≤ s.length) : wildcardLoop s s k k star mark hmark = true := by
  -- on the characters left: each one matches itself, so only the first branch runs
  obtain ⟨n, hn⟩ : ∃ n, s.length - k = n := ⟨_, rfl⟩
  induction n generalizing k mark with
  | zero =>
    have hend : k = s.length := by omega
    subst hend
    unfold wildcardLoop
    rw [if_neg (Nat.lt_irrefl _)]
    simp
  | succ n ih =>
    have hlt : k < s.length := by omega
    unfold wildcardLoop
    rw [if_pos hlt, if_pos (Or.inr rfl)]
    exact ih (k + 1) mark _ (by omega) (by omega)

theorem wildcardMatch_self (s : List Char) : wildcardMatch s s = true :=
  wildcardLoop_self s 0 none 0 (Nat.le_refl 0) (Nat.zero_le _)

theorem segmentsMatch_single {d : List Char} (hd : d ≠ "**".toList) (path : List (List Char)) :
    segmentsMatch [d] path = true ↔ ∃ ph, path = [ph] ∧ wildcardMatch d ph = true := by
  unfold segmentsMatch
  rw [if_neg hd]
  match path with
  | [] => simp
  | [ph] => simp [segmentsMatch]
  | _ :: _ :: _ => simp [segmentsMatch]

theorem isExcluded_single (segments : List (List Char)) (rel : List (List Char)) :
    DockerIgnore.isExcluded ⟨[⟨segments, false⟩]⟩ rel = segmentsMatch segments rel := by
  simp [DockerIgnore.isExcluded]

/-! ## Paths of one and two names -/

/-- A name that is one `Normal` component of a path. -/
structure PathSegment (s : List Char) : Prop where
  ne_nil : s ≠ []
  no_slash : '/' ∉ s
  not_dot : s ≠ ['.']
  not_dotdot : s ≠ ['.', '.']

/-- A line of `.dockerignore` that is one such name as it stands: nothing to trim, no
    line break, no comment or negation, no `**`. -/
structure IgnoreSegment (d : List Char) : Prop extends PathSegment d where
  trimmed : Trimmed d
  no_newline : '\n' ∉ d
  not_comment : d.head? ≠ some '#'
  not_negated : d.head? ≠ some '!'
  not_doublestar : d ≠ "**".toList

theorem dropWhile_eq_self_of_not_mem {c : Char} {s : List Char} (h : c ∉ s) :
    s.dropWhile (· = c) = s := by
  apply dropWhile_of_head
  intro x hx
  have hmem : x ∈ s := List.mem_of_mem_head? hx
  simpa using fun heq : x = c => h (heq ▸ hmem)

theorem trimSlashes_of_not_mem {s : List Char} (h : '/' ∉ s) : DockerIgnore.trimSlashes s = s := by
  have hrev : '/' ∉ s.reverse := by simpa using h
  rw [DockerIgnore.trimSlashes, dropWhile_eq_self_of_not_mem h, dropWhile_eq_self_of_not_mem hrev,
    List.reverse_reverse]

theorem stripPrefix_dotSlash {s : List Char} (h : '/' ∉ s) : stripPrefix "./".toList s = none := by
  cases hstrip : stripPrefix "./".toList s with
  | none => rfl
  | some rest =>
    obtain rfl := stripPrefix_eq_some.mp hstrip
    simp at h

theorem rejectPathTraversal_ok {path : List Char} (h : "..".toList ∉ path.splitOn '/') :
    rejectPathTraversal path = .ok () := by
  have hany : (path.splitOn '/').any (· == "..".toList) = false := by
    rw [List.any_eq_false]
    intro segment hmem heq
    exact h (eq_of_beq heq ▸ hmem)
  rw [rejectPathTraversal, hany]
  rfl

namespace PathSegment

variable {s : List Char} (hs : PathSegment s)
include hs

theorem pathSegments_eq : pathSegments s = [s] := by
  have hnil : s.isEmpty = false := List.isEmpty_eq_false_iff.mpr hs.ne_nil
  simp [pathSegments, List.splitOn_eq_singleton hs.no_slash, hnil, hs.not_dot, hs.not_dotdot]

theorem dropWhile_slash_append (t : List Char) : (s ++ t).dropWhile (· = '/') = s ++ t := by
  obtain ⟨c, cs, rfl⟩ := List.exists_cons_of_ne_nil hs.ne_nil
  have hc : c ≠ '/' := fun h => hs.no_slash (h ▸ List.mem_cons_self)
  simp [hc]

theorem rejectPathTraversal_eq : rejectPathTraversal s = .ok () := by
  apply rejectPathTraversal_ok
  rw [List.splitOn_eq_singleton hs.no_slash, List.mem_singleton]
  exact fun h => hs.not_dotdot h.symm

variable {f : List Char} (hf : PathSegment f)
include hf

theorem splitOn_append_slash : (s ++ '/' :: f).splitOn '/' = [s, f] := by
  rw [List.splitOn_append_cons_self_of_not_mem hs.no_slash, List.splitOn_eq_singleton hf.no_slash]

theorem pathSegments_append_slash : pathSegments (s ++ '/' :: f) = [s, f] := by
  have hkeep : ∀ t : List Char, PathSegment t →
      (!t.isEmpty && t != ['.'] && t != ['.', '.']) = true := by
    intro t ht
    have hnil : t.isEmpty = false := List.isEmpty_eq_false_iff.mpr ht.ne_nil
    simp [hnil, ht.not_dot, ht.not_dotdot]
  rw [pathSegments, splitOn_append_slash hs hf]
  simp only [List.filter_cons, hkeep s hs, hkeep f hf, if_true, List.filter_nil]

theorem rejectPathTraversal_append_slash : rejectPathTraversal (s ++ '/' :: f) = .ok () := by
  apply rejectPathTraversal_ok
  rw [splitOn_append_slash hs hf]
  simp [Ne.symm hs.not_dotdot, Ne.symm hf.not_dotdot]

end PathSegment

theorem IgnoreSegment.parse {d : List Char} (hd : IgnoreSegment d) :
    DockerIgnore.parse d = ⟨[⟨[d], false⟩]⟩ := by
  obtain ⟨c, cs, rfl⟩ := List.exists_cons_of_ne_nil hd.ne_nil
  have hline : DockerIgnore.parseLine (c :: cs) = some ⟨[c :: cs], false⟩ := by
    have hc : c ≠ '!' := fun h => hd.not_negated (by rw [h]; rfl)
    have hhash : c ≠ '#' := fun h => hd.not_comment (by rw [h]; rfl)
    rw [DockerIgnore.parseLine, trimChars_of_trimmed hd.trimmed]
    simp only [List.isEmpty_cons, List.head?_cons, beq_iff_eq, Option.some.injEq, hhash,
      Bool.false_or, if_false]
    split
    · rename_i rest heq
      exact absurd (List.cons.inj heq).1 hc
    · rw [stripPrefix_dotSlash hd.no_slash, Option.getD_none, trimSlashes_of_not_mem hd.no_slash,
        List.splitOn_eq_singleton hd.no_slash]
      rfl
  rw [DockerIgnore.parse, List.splitOn_eq_singleton hd.no_newline]
  simp [hline]

/-! ## What the walk copies -/

/-- No path below `relBase` on the way down to `relBase ++ rest` is excluded, so the walk
    from `relBase` reaches it. -/
def Unpruned (ignore : Option DockerIgnore) (relBase rest : List (List Char)) : Prop :=
  ∀ pre, pre <+: rest → pre ≠ [] → excludedBy ignore (relBase ++ pre) = false

theorem unpruned_nil (ignore : Option DockerIgnore) (relBase : List (List Char)) :
    Unpruned ignore relBase [] := by
  intro pre hpre hne
  exact absurd (List.prefix_nil.mp hpre) hne

theorem unpruned_cons {ignore : Option DockerIgnore} {relBase rest : List (List Char)}
    {name : List Char} :
    Unpruned ignore relBase (name :: rest) ↔
      excludedBy ignore (relBase ++ [name]) = false ∧ Unpruned ignore (relBase ++ [name]) rest := by
  constructor
  · intro h
    refine ⟨h [name] (by simp) (by simp), fun pre hpre _ => ?_⟩
    have hcons : name :: pre <+: name :: rest := (List.prefix_cons_inj name).mpr hpre
    simpa using h (name :: pre) hcons (List.cons_ne_nil _ _)
  · rintro ⟨hname, hrest⟩ pre hpre hne
    -- a nonempty prefix of `name :: rest` is `name` followed by a prefix of `rest`
    obtain ⟨a, pre, rfl⟩ := List.exists_cons_of_ne_nil hne
    obtain ⟨rfl, htail⟩ := List.cons_prefix_cons.mp hpre
    cases pre with
    | nil => exact hname
    | cons b pre => simpa using hrest (b :: pre) htail (List.cons_ne_nil _ _)

theorem mem_copyDirFiltered {ignore : Option DockerIgnore} {p : List (List Char)} (l : Listing)
    (relBase : List (List Char)) :
    p ∈ copyDirFiltered ignore relBase l ↔
      ∃ rest ∈ l.files, p = relBase ++ rest ∧ Unpruned ignore relBase rest := by
  -- on the listing, with the walk's starting point generalized for the subdirectories
  induction l generalizing relBase with
  | empty => simp [copyDirFiltered, Listing.files]
  | file name rest ih =>
    have hname : Unpruned ignore relBase [name] ↔ excludedBy ignore (relBase ++ [name]) = false := by
      simp [unpruned_cons, unpruned_nil]
    rw [copyDirFiltered, List.mem_append, List.mem_ite_nil_left, List.mem_singleton, ih, Listing.files]
    constructor
    · rintro (⟨hex, rfl⟩ | ⟨r, hr, hp⟩)
      · exact ⟨[name], List.mem_cons_self, rfl, hname.mpr (by simpa using hex)⟩
      · exact ⟨r, List.mem_cons_of_mem _ hr, hp⟩
    · intro ⟨r, hr, hp, hun⟩
      rcases List.mem_cons.mp hr with rfl | hr
      · exact Or.inl ⟨by simpa using hname.mp hun, hp⟩
      · exact Or.inr ⟨r, hr, hp, hun⟩
  | dir name entries rest ihEntries ihRest =>
    -- below `name` the walk goes on from `relBase ++ [name]`
    have hbelow : ∀ r, (p = relBase ++ name :: r ∧ Unpruned ignore relBase (name :: r)) ↔
        excludedBy ignore (relBase ++ [name]) = false ∧
          (p = (relBase ++ [name]) ++ r ∧ Unpruned ignore (relBase ++ [name]) r) := by
      intro r
      rw [unpruned_cons, List.append_assoc, List.singleton_append]
      tauto
    rw [copyDirFiltered, List.mem_append, List.mem_ite_nil_left, ihEntries, ihRest, Listing.files]
    constructor
    · rintro (⟨hex, r, hr, hp⟩ | ⟨r, hr, hp⟩)
      · refine ⟨name :: r, List.mem_append_left _ (List.mem_map_of_mem hr), ?_⟩
        exact (hbelow r).mpr ⟨by simpa using hex, hp⟩
      · exact ⟨r, List.mem_append_right _ hr, hp⟩
    · intro ⟨r, hr, hpr⟩
      rcases List.mem_append.mp hr with hr | hr
      · obtain ⟨below, hbelowMem, rfl⟩ := List.mem_map.mp hr
        obtain ⟨hex, hp⟩ := (hbelow below).mp hpr
        exact Or.inl ⟨by simpa using hex, below, hbelowMem, hp⟩
      · exact Or.inr ⟨r, hr, hpr⟩

theorem ignored_iff_not_unpruned {ignore : Option DockerIgnore} {p : List (List Char)} :
    Ignored ignore p ↔ ¬ Unpruned ignore [] p := by
  simp [Ignored, Unpruned]

theorem Ignored.of_append {ignore : Option DockerIgnore} {base rest : List (List Char)}
    (h : Ignored ignore (base ++ rest)) : Ignored ignore base ∨ ¬ Unpruned ignore base rest := by
  obtain ⟨pre, hpre, hne, hex⟩ := h
  rcases List.prefix_or_prefix_of_prefix hpre (List.prefix_append base rest) with hbase | hbase
  · exact Or.inl ⟨pre, hbase, hne, hex⟩
  · -- the excluded prefix runs past `base`: what lies below `base` is a prefix of `rest`
    obtain ⟨below, rfl⟩ := hbase
    by_cases hnil : below = []
    · subst hnil
      exact Or.inl ⟨base ++ [], by simp, hne, hex⟩
    · right
      intro hun
      have hfalse := hun below ((List.prefix_append_right_inj base).mp hpre) hnil
      rw [hex] at hfalse
      exact Bool.noConfusion hfalse

/-! ## The sources the handlers read -/

theorem pathSegments_copyRel (src : List Char) :
    pathSegments (if src = ['.'] then [] else src.dropWhile (· = '/')) =
      pathSegments (src.dropWhile (· = '/')) := by
  split
  · -- `"."` is the context itself either way
    subst src
    decide
  · rfl

theorem copySource_eq_ok {ignore : Option DockerIgnore} {context : Listing} {contextDir : String}
    {src : List Char} {copied : List (List (List Char))}
    (h : copySource ignore context contextDir src = .ok copied) :
    (context.find (pathSegments (src.dropWhile (· = '/'))) = some .file ∧
        copied = [pathSegments (src.dropWhile (· = '/'))]) ∨
      ∃ entries, context.find (pathSegments (src.dropWhile (· = '/'))) = some (.dir entries) ∧
        copied = copyDirFiltered ignore (pathSegments (src.dropWhile (· = '/'))) entries := by
  rw [copySource, bind_unit_eq_ok] at h
  obtain ⟨-, h⟩ := h
  simp only [pathSegments_copyRel] at h
  cases hfind : context.find (pathSegments (src.dropWhile (· = '/'))) with
  | none =>
    simp only [hfind] at h
    cases h
  | some found =>
    cases found with
    | file =>
      simp only [hfind] at h
      -- the exclusion check throws or lets the one file through
      exact Or.inl ⟨rfl, (pure_eq_ok.mp (ite_throw_eq_ok.mp h).2).symm⟩
    | dir entries =>
      simp only [hfind] at h
      exact Or.inr ⟨entries, rfl, (Except.ok.inj h).symm⟩

theorem copySource_file {ignore : Option DockerIgnore} {context : Listing} {contextDir : String}
    {src : List Char} (hreject : rejectPathTraversal src = .ok ())
    (hfind : context.find (pathSegments (src.dropWhile (· = '/'))) = some .file)
    (hex : excludedBy ignore (pathSegments (src.dropWhile (· = '/'))) = false) :
    copySource ignore context contextDir src = .ok [pathSegments (src.dropWhile (· = '/'))] := by
  simp [copySource, hreject, hfind, pathSegments_copyRel, hex]

/-- A directory named as the source is walked without a check of its own path. -/
theorem copySource_dir {ignore : Option DockerIgnore} {context entries : Listing}
    {contextDir : String} {src : List Char} (hreject : rejectPathTraversal src = .ok ())
    (hfind : context.find (pathSegments (src.dropWhile (· = '/'))) = some (.dir entries)) :
    copySource ignore context contextDir src =
      .ok (copyDirFiltered ignore (pathSegments (src.dropWhile (· = '/'))) entries) := by
  simp [copySource, hreject, hfind, pathSegments_copyRel]

theorem normalizedContextRel_eq (path : List Char) :
    normalizedContextRel path = pathSegments (path.dropWhile (· = '/')) := by
  rw [normalizedContextRel]
  split
  · rename_i hdot
    rw [hdot]
    decide
  · rfl

theorem runBindMountSource_eq_ok {ignore : Option DockerIgnore} {sourceRoot : Listing}
    {sourceLabel : String} {source : List Char} {copied : List (List (List Char))}
    (h : runBindMountSource ignore sourceRoot sourceLabel source = .ok copied) :
    (sourceRoot.find (normalizedContextRel source) = some .file ∧ copied = [normalizedContextRel source]) ∨
      ∃ entries, sourceRoot.find (normalizedContextRel source) = some (.dir entries) ∧
        copied = copyDirFiltered ignore (normalizedContextRel source) entries := by
  rw [runBindMountSource, bind_unit_eq_ok] at h
  obtain ⟨-, h⟩ := h
  cases hfind : sourceRoot.find (normalizedContextRel source) with
  | none =>
    simp only [hfind] at h
    cases h
  | some found =>
    simp only [hfind] at h
    -- past the exclusion check, a file is copied as it is and a directory walked
    obtain ⟨-, h⟩ := ite_throw_eq_ok.mp h
    cases found with
    | file => exact Or.inl ⟨rfl, (pure_eq_ok.mp h).symm⟩
    | dir entries => exact Or.inr ⟨entries, rfl, (pure_eq_ok.mp h).symm⟩

theorem IgnoreSegment.excludedBy_iff {d : List Char} (hd : IgnoreSegment d) (rel : List (List Char)) :
    excludedBy (some (DockerIgnore.parse d)) rel = true ↔ ∃ ph, rel = [ph] ∧ wildcardMatch d ph = true := by
  show DockerIgnore.isExcluded (DockerIgnore.parse d) rel = true ↔ _
  rw [hd.parse, isExcluded_single]
  exact segmentsMatch_single hd.not_doublestar rel

/-! ## What the handlers let through -/

theorem copy_exposes_ignored_path {d f : List Char} (hd : IgnoreSegment d) (hf : PathSegment f)
    (entries rest : Listing) (contextDir sourceLabel : String) :
    Ignored (some (DockerIgnore.parse d)) [d, f] ∧
      copySource (some (DockerIgnore.parse d)) (.dir d (.file f entries) rest) contextDir
          (d ++ '/' :: f) = .ok [[d, f]] ∧
      (∃ copied, copySource (some (DockerIgnore.parse d)) (.dir d (.file f entries) rest) contextDir d =
          .ok copied ∧ [d, f] ∈ copied) ∧
      runBindMountSource (some (DockerIgnore.parse d)) (.dir d (.file f entries) rest) sourceLabel
          (d ++ '/' :: f) = .ok [[d, f]] := by
  -- the rule matches `d` alone and nothing below it
  have hself : excludedBy (some (DockerIgnore.parse d)) [d] = true :=
    (hd.excludedBy_iff [d]).mpr ⟨d, rfl, wildcardMatch_self d⟩
  have hbelow : excludedBy (some (DockerIgnore.parse d)) [d, f] = false := by
    rw [← Bool.not_eq_true, hd.excludedBy_iff]
    rintro ⟨ph, hph, -⟩
    cases hph
  have hpath : pathSegments ((d ++ '/' :: f).dropWhile (· = '/')) = [d, f] := by
    rw [hd.dropWhile_slash_append, hd.pathSegments_append_slash hf]
  have hdir : pathSegments (d.dropWhile (· = '/')) = [d] := by
    rw [← List.append_nil d, hd.dropWhile_slash_append, List.append_nil, hd.pathSegments_eq]
  have hfile : (Listing.dir d (.file f entries) rest).find [d, f] = some .file := by
    simp [Listing.find]
  refine ⟨⟨[d], ⟨[f], rfl⟩, List.cons_ne_nil _ _, hself⟩, ?_, ?_, ?_⟩
  · -- `COPY d/f`: a file, checked as `d/f` only
    rw [copySource_file (hd.rejectPathTraversal_append_slash hf) (hpath ▸ hfile) (hpath ▸ hbelow), hpath]
  · -- `COPY d`: a directory, walked from `d` with no check of `d` itself
    have hfind : (Listing.dir d (.file f entries) rest).find (pathSegments (d.dropWhile (· = '/'))) =
        some (.dir (.file f entries)) := by
      simp [hdir, Listing.find]
    refine ⟨_, copySource_dir hd.rejectPathTraversal_eq hfind, ?_⟩
    rw [hdir, mem_copyDirFiltered]
    refine ⟨[f], List.mem_cons_self, rfl, ?_⟩
    exact unpruned_cons.mpr ⟨hbelow, unpruned_nil _ _⟩
  · -- a bind mount of `d/f`: the check tests `d/f` only
    have hrel : normalizedContextRel (d ++ '/' :: f) = [d, f] := by
      have hne : d ++ '/' :: f ≠ ['.'] := by
        intro h
        have hmem : '/' ∈ d ++ '/' :: f := List.mem_append_right _ List.mem_cons_self
        rw [h] at hmem
        simp at hmem
      simp only [normalizedContextRel, hd.dropWhile_slash_append, if_neg hne,
        hd.pathSegments_append_slash hf]
    simp [runBindMountSource, hd.rejectPathTraversal_append_slash hf, hrel, hfile, hbelow]

/-- An ignored directory `secret` holding `key`. -/
theorem secret_key_exposed :
    IgnoreSegment ['s', 'e', 'c', 'r', 'e', 't'] ∧ PathSegment ['k', 'e', 'y'] ∧
      (Ignored (some (DockerIgnore.parse ['s', 'e', 'c', 'r', 'e', 't']))
          [['s', 'e', 'c', 'r', 'e', 't'], ['k', 'e', 'y']] ∧
        copySource (some (DockerIgnore.parse ['s', 'e', 'c', 'r', 'e', 't']))
            (.dir ['s', 'e', 'c', 'r', 'e', 't'] (.file ['k', 'e', 'y'] .empty) .empty) "/ctx"
            (['s', 'e', 'c', 'r', 'e', 't'] ++ '/' :: ['k', 'e', 'y']) =
          .ok [[['s', 'e', 'c', 'r', 'e', 't'], ['k', 'e', 'y']]] ∧
        (∃ copied, copySource (some (DockerIgnore.parse ['s', 'e', 'c', 'r', 'e', 't']))
            (.dir ['s', 'e', 'c', 'r', 'e', 't'] (.file ['k', 'e', 'y'] .empty) .empty) "/ctx"
            ['s', 'e', 'c', 'r', 'e', 't'] = .ok copied ∧
          [['s', 'e', 'c', 'r', 'e', 't'], ['k', 'e', 'y']] ∈ copied) ∧
        runBindMountSource (some (DockerIgnore.parse ['s', 'e', 'c', 'r', 'e', 't']))
            (.dir ['s', 'e', 'c', 'r', 'e', 't'] (.file ['k', 'e', 'y'] .empty) .empty) "build context"
            (['s', 'e', 'c', 'r', 'e', 't'] ++ '/' :: ['k', 'e', 'y']) =
          .ok [[['s', 'e', 'c', 'r', 'e', 't'], ['k', 'e', 'y']]]) := by
  have hd : IgnoreSegment ['s', 'e', 'c', 'r', 'e', 't'] :=
    { ne_nil := List.cons_ne_nil _ _
      no_slash := by decide
      not_dot := by decide
      not_dotdot := by decide
      trimmed := ⟨by simp [isRustWhitespace], by simp [isRustWhitespace]⟩
      no_newline := by decide
      not_comment := by decide
      not_negated := by decide
      not_doublestar := by decide }
  have hf : PathSegment ['k', 'e', 'y'] :=
    ⟨List.cons_ne_nil _ _, by decide, by decide, by decide⟩
  exact ⟨hd, hf, copy_exposes_ignored_path hd hf .empty .empty "/ctx" "build context"⟩

/-- What a handler copies from a source at `base`, the source itself or the walk below it,
    is not ignored when `base` is not. -/
theorem not_ignored_of_copied {ignore : Option DockerIgnore} {base : List (List Char)}
    {copied : List (List (List Char))} (hbase : ¬ Ignored ignore base)
    (h : copied = [base] ∨ ∃ entries, copied = copyDirFiltered ignore base entries) :
    ∀ p ∈ copied, ¬ Ignored ignore p := by
  intro p hp hignored
  rcases h with rfl | ⟨entries, rfl⟩
  · rw [List.mem_singleton] at hp
    exact hbase (hp ▸ hignored)
  · obtain ⟨rest, -, rfl, hun⟩ := (mem_copyDirFiltered entries base).mp hp
    rcases hignored.of_append with hb | hnot
    · exact hbase hb
    · exact hnot hun

theorem copy_skips_ignored_below_source {ignore : Option DockerIgnore} {context : Listing}
    {contextDir sourceLabel : String} {src : List Char}
    (hsrc : ¬ Ignored ignore (pathSegments (src.dropWhile (· = '/')))) :
    (∀ copied, copySource ignore context contextDir src = .ok copied →
        ∀ p ∈ copied, ¬ Ignored ignore p) ∧
      ∀ copied, runBindMountSource ignore context sourceLabel src = .ok copied →
        ∀ p ∈ copied, ¬ Ignored ignore p := by
  constructor
  · intro copied h
    apply not_ignored_of_copied hsrc
    rcases copySource_eq_ok h with ⟨-, hcopied⟩ | ⟨entries, -, hcopied⟩
    · exact Or.inl hcopied
    · exact Or.inr ⟨entries, hcopied⟩
  · intro copied h
    rw [← normalizedContextRel_eq] at hsrc
    apply not_ignored_of_copied hsrc
    rcases runBindMountSource_eq_ok h with ⟨-, hcopied⟩ | ⟨entries, -, hcopied⟩
    · exact Or.inl hcopied
    · exact Or.inr ⟨entries, hcopied⟩

/-- `COPY .` with the rules `secret`. -/
theorem copy_dot_skips_ignored :
    ¬ Ignored (some (DockerIgnore.parse ['s', 'e', 'c', 'r', 'e', 't'])) (pathSegments (['.'].dropWhile (· = '/'))) ∧
      ((∀ copied, copySource (some (DockerIgnore.parse ['s', 'e', 'c', 'r', 'e', 't']))
            (.dir ['s', 'e', 'c', 'r', 'e', 't'] (.file ['k', 'e', 'y'] .empty) .empty) "/ctx" ['.'] =
              .ok copied → ∀ p ∈ copied, ¬ Ignored (some (DockerIgnore.parse ['s', 'e', 'c', 'r', 'e', 't'])) p) ∧
        ∀ copied, runBindMountSource (some (DockerIgnore.parse ['s', 'e', 'c', 'r', 'e', 't']))
            (.dir ['s', 'e', 'c', 'r', 'e', 't'] (.file ['k', 'e', 'y'] .empty) .empty) "build context" ['.'] =
              .ok copied → ∀ p ∈ copied, ¬ Ignored (some (DockerIgnore.parse ['s', 'e', 'c', 'r', 'e', 't'])) p) := by
  have hroot : pathSegments (['.'].dropWhile (· = '/')) = [] := by decide
  have hsrc : ¬ Ignored (some (DockerIgnore.parse ['s', 'e', 'c', 'r', 'e', 't']))
      (pathSegments (['.'].dropWhile (· = '/'))) := by
    rw [hroot]
    intro ⟨pre, hpre, hne, _⟩
    exact hne (List.prefix_nil.mp hpre)
  exact ⟨hsrc, copy_skips_ignored_below_source hsrc⟩

theorem copy_context_skips_ignored (ignore : Option DockerIgnore) (context : Listing)
    (contextDir : String) :
    ∃ copied, copySource ignore context contextDir ['.'] = .ok copied ∧
      ∀ p, p ∈ copied ↔ p ∈ context.files ∧ ¬ Ignored ignore p := by
  -- `COPY .` walks the whole context from its root
  have hroot : pathSegments (['.'].dropWhile (· = '/')) = [] := by decide
  have hfind : context.find (pathSegments (['.'].dropWhile (· = '/'))) = some (.dir context) := by
    rw [hroot, Listing.find]
  refine ⟨_, copySource_dir (rejectPathTraversal_ok (by decide)) hfind, fun p => ?_⟩
  rw [hroot, mem_copyDirFiltered, ignored_iff_not_unpruned, not_not]
  constructor
  · intro ⟨rest, hrest, hp, hun⟩
    rw [List.nil_append] at hp
    exact ⟨hp ▸ hrest, hp ▸ hun⟩
  · intro ⟨hp, hun⟩
    exact ⟨p, hp, rfl, hun⟩

end A3sBox.Oci
