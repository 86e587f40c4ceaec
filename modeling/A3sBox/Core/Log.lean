import A3sBox.Lib.Net
import A3sBox.Lib.Slots
import A3sBox.Oci.Reference

/-
  The `json-file` log driver (`log.rs`): the size a `max-size` option stands for, and the
  files the rotating writer keeps.

  Model. A text is a `List Char`. `parse_size` trims Unicode white space and lower-cases
  with `sizeLowercase`: the ASCII letters, and U+212A KELVIN SIGN, the one other character
  whose lowercase is an ASCII letter (`k`). Other non-ASCII letters are kept as they are, so
  on a text that holds one the model's error message shows the letter where the source's
  shows its lowercase; the result is an error in both. `u64::from_str` and `u32::from_str` are
  `parseUnsigned` with bounds `2^64` and `2^32`. The product `n * mult` is the `u64`
  product of a release build, which wraps.

  The writer's files are named by `LogFile` (the live file, or `rotated_path(path, i)`),
  which loses nothing since distinct files have distinct paths (`LogFile.path_injective`).
  A file is modelled by what a reader gets back from it, a rotated file decompressed, so
  `compress_file` copies the live text into `path.1.gz`. The file system calls are the
  ones that succeed: the claims are about successful writes. `written` is a `u64`.
  `splitLog` is the log cut into the files the rotations close, the abstract view the
  writer is compared with (`Keeps`).

  Proved:
  * `parse_size_repeated_unit_wraps`: a decimal `u64` followed by one or more `g` parses
    as that value times `1024^3`, taken modulo `2^64`: the unit may be repeated, and the
    product wraps instead of being refused;
  * `single_file_rotation_leaves_two_files`: with `max_file = 1`, the first rotation
    leaves the live file and `path.1.gz`, two files;
  * `rotating_writer_keeps_last_files`: with `max_file ≥ 2` and no line long enough to
    wrap `written`, every run of lines leaves at most `max_file` files, a live file of
    exactly `written < max_size` bytes, and rotated files that, read from the highest
    down and followed by the live one, are the lines from the first line of the last
    `max_file - 1` closed files on.
-/

namespace A3sBox

open A3sBox.Lib A3sBox.Lib.Str A3sBox.Lib.Net A3sBox.Oci

/-- `u64::from_str`. -/
def parseU64 (s : List Char) : Except IntErrorKind Nat := parseUnsigned (2 ^ 64) s

/-- The end of `parse_size` once a unit is found: the number before it, times the unit. -/
def scaleSize (num : List Char) (mult : Nat) : Except String Nat :=
  match parseU64 num with
  | .ok n => .ok (n * mult % 2 ^ 64)
  | .error _ => .error ("invalid number: " ++ String.ofList num)

/-- `to_lowercase` as far as `parse_size` can tell: the ASCII letters lowered, and U+212A
    KELVIN SIGN lowered to `k`. -/
def sizeLowercase (s : List Char) : List Char :=
  s.map fun c => if c = '\u212A' then 'k' else c.toLower

/-- On a text without the Kelvin sign, `sizeLowercase` is the ASCII lowering. -/
theorem sizeLowercase_eq_asciiLower {s : List Char} (h : '\u212A' ∉ s) :
    sizeLowercase s = asciiLower s := by
  apply List.map_congr_left
  intro c hc
  have hne : c ≠ '\u212A' := fun heq => h (heq ▸ hc)
  rw [if_neg hne]

/-- `parse_size`. A unit is recognised by its last letters, and every copy of it at the
    end of the text goes (`trim_end_matches`). -/
def parseSize (input : String) : Except String Nat :=
  let s := sizeLowercase (trimRust input).toList
  match parseU64 s with
  | .ok n => .ok n
  | .error _ =>
    if "gb".toList <:+ s ∨ ['g'] <:+ s then
      scaleSize (trimEndMatches ['g'] (trimEndMatches "gb".toList s)) (1024 * 1024 * 1024)
    else if "mb".toList <:+ s ∨ ['m'] <:+ s then
      scaleSize (trimEndMatches ['m'] (trimEndMatches "mb".toList s)) (1024 * 1024)
    else if "kb".toList <:+ s ∨ ['k'] <:+ s then
      scaleSize (trimEndMatches ['k'] (trimEndMatches "kb".toList s)) 1024
    else if ['b'] <:+ s then scaleSize (trimEndMatches ['b'] s) 1
    else .error ("unrecognized size format: " ++ String.ofList s)

/-- `LogConfig`, as its options. -/
structure LogConfig where
  options : String → Option String

/-- 10 MiB, what `max_size` falls back to. -/
def defaultMaxSize : Nat := 10 * 1024 * 1024

/-- `LogConfig::max_size`: a `max-size` option that does not parse is ignored. -/
def LogConfig.maxSize (config : LogConfig) : Nat :=
  ((config.options "max-size").bind fun s => (parseSize s).toOption).getD defaultMaxSize

/-- `LogConfig::max_file`. -/
def LogConfig.maxFile (config : LogConfig) : Nat :=
  ((config.options "max-file").bind fun s => (parseUnsigned (2 ^ 32) s.toList).toOption).getD 3

theorem isRustWhitespace_of_isDigit {c : Char} (h : c.isDigit = true) :
    isRustWhitespace c = false := by
  have := toNat_of_isDigit h
  simp only [isRustWhitespace]
  grind

/-- The decimal text of a value followed by a run of a unit letter `u` is already trimmed
    and lower-case. -/
theorem parseSize_text {v k : Nat} {u : Char} (hu : isRustWhitespace u = false)
    (hlower : u.isUpper = false) (hkelvin : u ≠ '\u212A') :
    sizeLowercase (trimRust (String.ofList (Nat.toDigits 10 v ++ List.replicate (k + 1) u))).toList =
      Nat.toDigits 10 v ++ List.replicate (k + 1) u := by
  have hdigits : ∀ c ∈ Nat.toDigits 10 v, c.isDigit = true :=
    fun c hc => Nat.isDigit_of_mem_toDigits (by decide) (by decide) hc
  obtain ⟨d, ds, hcons⟩ := List.exists_cons_of_ne_nil (Nat.toDigits_ne_nil (b := 10) (n := v))
  have htrimmed : Trimmed (Nat.toDigits 10 v ++ List.replicate (k + 1) u) := by
    constructor
    · rw [hcons, List.cons_append, List.head?_cons]
      intro c hc
      rw [Option.mem_some_iff] at hc
      exact hc ▸ isRustWhitespace_of_isDigit (hdigits d (hcons ▸ List.mem_cons_self))
    · rw [List.replicate_succ', ← List.append_assoc, List.getLast?_concat]
      intro c hc
      rw [Option.mem_some_iff] at hc
      exact hc ▸ hu
  -- no digit is the Kelvin sign, and neither is the unit
  have hnotKelvin : '\u212A' ∉ Nat.toDigits 10 v ++ List.replicate (k + 1) u := by
    intro hmem
    rcases List.mem_append.mp hmem with hdigit | hunit
    · have := hdigits _ hdigit
      contradiction
    · exact hkelvin (List.eq_of_mem_replicate hunit).symm
  rw [trimRust_ofList htrimmed, sizeLowercase_eq_asciiLower hnotKelvin]
  apply asciiLower_eq_self
  intro c hc
  rcases List.mem_append.mp hc with hdigit | hunit
  · exact isUpper_of_isDigit (hdigits c hdigit)
  · exact (List.eq_of_mem_replicate hunit) ▸ hlower

/-- A decimal text does not end in a letter. -/
theorem stripSuffix_toDigits_eq_none {v : Nat} {u : Char} (hu : u.isDigit = false) :
    stripSuffix [u] (Nat.toDigits 10 v) = none := by
  cases hstrip : stripSuffix [u] (Nat.toDigits 10 v) with
  | none => rfl
  | some rest =>
    have hmem : u ∈ Nat.toDigits 10 v := by
      rw [stripSuffix_eq_some.mp hstrip]
      exact List.mem_append_right rest (List.mem_singleton_self u)
    have := Nat.isDigit_of_mem_toDigits (by decide) (by decide) hmem
    rw [hu] at this
    cases this

theorem parse_size_repeated_unit_wraps {v : Nat} (hv : v < 2 ^ 64) (k : Nat) :
    parseSize (String.ofList (Nat.toDigits 10 v ++ List.replicate (k + 1) 'g')) =
      .ok (v * (1024 * 1024 * 1024) % 2 ^ 64) := by
  have htext := parseSize_text (v := v) (k := k) (u := 'g') (by decide) (by decide) (by decide)
  -- the whole text is no number, so the unit branches are reached
  obtain ⟨error, hnumber⟩ : ∃ error, parseUnsigned (2 ^ 64)
      (Nat.toDigits 10 v ++ List.replicate (k + 1) 'g') = .error error :=
    parseUnsigned_toDigits_append_of_not_digit (by decide) _
  have hunit : ['g'] <:+ Nat.toDigits 10 v ++ List.replicate (k + 1) 'g' := by
    rw [List.replicate_succ', ← List.append_assoc]
    exact List.suffix_append _ _
  -- a text ending in `g` does not end in `gb`
  have hgb : stripSuffix "gb".toList (Nat.toDigits 10 v ++ List.replicate (k + 1) 'g') = none := by
    cases hstrip : stripSuffix "gb".toList (Nat.toDigits 10 v ++ List.replicate (k + 1) 'g') with
    | none => rfl
    | some rest =>
      have hlast := congrArg List.getLast? (stripSuffix_eq_some.mp hstrip)
      rw [List.replicate_succ', ← List.append_assoc, List.getLast?_concat] at hlast
      simp at hlast
  rw [parseSize]
  rw [htext, parseU64, hnumber]
  rw [if_pos (Or.inr hunit), trimEndMatches_of_stripSuffix_none hgb,
    trimEndMatches_append_replicate (stripSuffix_toDigits_eq_none (by decide)), scaleSize,
    parseU64, parseUnsigned_toDigits_of_lt hv]

theorem parse_size_doubled_unit_and_wrap :
    parseSize "10gg" = .ok (10 * 1024 ^ 3) ∧ parseSize "17179869184g" = .ok 0 := by
  have hdoubled := parse_size_repeated_unit_wraps (v := 10) (by decide) 1
  have hwrapped := parse_size_repeated_unit_wraps (v := 17179869184) (by decide) 0
  have htext10 : String.ofList (Nat.toDigits 10 10 ++ List.replicate (1 + 1) 'g') = "10gg" := by
    decide
  have htext2 : String.ofList (Nat.toDigits 10 17179869184 ++ List.replicate (0 + 1) 'g') =
      "17179869184g" := by
    decide
  rw [htext10] at hdoubled
  rw [htext2] at hwrapped
  exact ⟨hdoubled, hwrapped⟩

/-! ## The rotating writer -/

/-- A file of one writer's log: the live file at `path`, or `rotated_path(path, index)`. -/
inductive LogFile where
  | live
  | rotated (index : Nat)
deriving DecidableEq

/-- `rotated_path`: `container.json` becomes `container.json.1.gz`. -/
def rotatedPath (base : String) (index : Nat) : String := base ++ s!".{index}.gz"

/-- The path of a log file. -/
def LogFile.path (base : String) : LogFile → String
  | .live => base
  | .rotated index => rotatedPath base index

/-- The log files of one writer, as a reader gets them back (a rotated file decompressed):
    the live file, which the writer holds open, and the rotated files by index. -/
structure LogFiles where
  live : String
  rotated : Slots String

/-- `Path::exists`. -/
def LogFiles.fileExists (files : LogFiles) : LogFile → Bool
  | .live => true
  | .rotated index => (files.rotated index).isSome

/-- No log file yet: `new` creates the live file, empty. -/
def LogFiles.fresh : LogFiles := ⟨"", fun _ => none⟩

/-- What a reader gets from the log: the rotated files from `path.top.gz` down to
    `path.1.gz`, then the live file. -/
def LogFiles.read (files : LogFiles) (top : Nat) : String :=
  String.join ((List.range' 1 top).reverse.filterMap files.rotated) ++ files.live

/-- `RotatingWriter`; the path is the one the `LogFile`s are named from. -/
structure RotatingWriter where
  files : LogFiles
  written : Nat
  maxSize : Nat
  maxFile : Nat

/-- `RotatingWriter::new`: `written` starts at the length of the live file. -/
def RotatingWriter.new (files : LogFiles) (maxSize maxFile : Nat) : RotatingWriter :=
  ⟨files, files.live.utf8ByteSize, maxSize, maxFile⟩

/-- `RotatingWriter::rotate`: the renames for `i` in `(1..max_file).rev()`, the removal of
    `path.max_file.gz`, then `compress_file` into `path.1.gz`, the removal of the live file
    and its reopening. -/
def RotatingWriter.rotate (w : RotatingWriter) : RotatingWriter :=
  let shifted := Slots.shiftUp w.files.rotated (w.maxFile - 1)
  let pruned := Function.update shifted w.maxFile none
  { w with files := ⟨"", Function.update pruned 1 (some w.files.live)⟩, written := 0 }

/-- `RotatingWriter::write_line`; `written` is a `u64`. -/
def RotatingWriter.writeLine (w : RotatingWriter) (line : String) : RotatingWriter :=
  let bytes := line ++ "\n"
  let w := { w with
    files := { w.files with live := w.files.live ++ bytes }
    written := (w.written + bytes.utf8ByteSize) % 2 ^ 64 }
  if w.written ≥ w.maxSize then w.rotate else w

/-- The writer after each line of `lines` in turn. -/
def RotatingWriter.writeLines (w : RotatingWriter) (lines : List String) : RotatingWriter :=
  lines.foldl RotatingWriter.writeLine w

theorem rotatedPath_toList (base : String) (index : Nat) :
    (rotatedPath base index).toList =
      base.toList ++ '.' :: (Nat.toDigits 10 index ++ ['.', 'g', 'z']) := by
  have hdot : (toString ".").toList = ['.'] := rfl
  have hgz : (toString ".gz").toList = ['.', 'g', 'z'] := rfl
  simp [rotatedPath, String.toList_append, Nat.repr, hdot, hgz]

/-- Distinct log files have distinct paths, so that naming a file by its `LogFile` loses
    nothing: a rename or removal of one never touches another. -/
theorem LogFile.path_injective (base : String) : Function.Injective (LogFile.path base) := by
  intro a b hab
  have hlist := congrArg String.toList hab
  cases a with
  | live =>
    cases b with
    | live => rfl
    | rotated j =>
      have := congrArg List.length hlist
      simp [LogFile.path, rotatedPath_toList] at this
  | rotated i =>
    cases b with
    | live =>
      have := congrArg List.length hlist
      simp [LogFile.path, rotatedPath_toList] at this
    | rotated j =>
      simp only [LogFile.path, rotatedPath_toList, List.append_cancel_left_eq, List.cons.injEq,
        true_and, List.append_cancel_right_eq] at hlist
      have hij := congrArg (Nat.ofDigitChars 10 · 0) hlist
      simp only [Nat.ofDigitChars_ten_toDigits] at hij
      rw [hij]

theorem single_file_rotation_leaves_two_files {maxSize : Nat} {line : String}
    (hrotates : maxSize ≤ (line ++ "\n").utf8ByteSize)
    (hfits : (line ++ "\n").utf8ByteSize < 2 ^ 64) :
    {file | ((RotatingWriter.new .fresh maxSize 1).writeLine line).files.fileExists file} =
        {.live, .rotated 1} ∧
      1 < {file | ((RotatingWriter.new .fresh maxSize 1).writeLine line).files.fileExists file}.encard := by
  have hwritten : ("".utf8ByteSize + (line ++ "\n").utf8ByteSize) % 2 ^ 64 =
      (line ++ "\n").utf8ByteSize := by
    rw [String.utf8ByteSize_empty, Nat.zero_add, Nat.mod_eq_of_lt hfits]
  -- the first line reaches `max_size`, so it rotates; `max_file = 1` makes the rename loop
  -- empty and removes `path.1.gz` before the live file is compressed into it
  have hfiles : {file | ((RotatingWriter.new .fresh maxSize 1).writeLine line).files.fileExists file} =
      {.live, .rotated 1} := by
    ext file
    simp only [RotatingWriter.writeLine, RotatingWriter.new, LogFiles.fresh, hwritten,
      ge_iff_le, if_pos hrotates]
    cases file with
    | live => simp [LogFiles.fileExists]
    | rotated index =>
      by_cases hindex : index = 1
      · simp [RotatingWriter.rotate, LogFiles.fileExists, hindex]
      · simp [RotatingWriter.rotate, LogFiles.fileExists, hindex, Slots.shiftUp_zero]
  refine ⟨hfiles, ?_⟩
  rw [hfiles, Set.encard_pair (by simp)]
  decide

theorem one_line_with_max_file_one :
    {file | ((RotatingWriter.new .fresh 1 1).writeLine "a").files.fileExists file} =
        {.live, .rotated 1} ∧
      1 < {file | ((RotatingWriter.new .fresh 1 1).writeLine "a").files.fileExists file}.encard :=
  single_file_rotation_leaves_two_files (by decide) (by decide)

/-! ## What the writer keeps -/

/-- The text of a run of lines, each followed by a newline, as `write_line` writes them. -/
def linesText (lines : List String) : String := String.join (lines.map (· ++ "\n"))

/-- One line of the log cut into files: a file is closed by the line that brings it to
    `maxSize` bytes. The state is the closed files, oldest first, and the open one. -/
def closeStep (maxSize : Nat) (log : List (List String) × List String) (line : String) :
    List (List String) × List String :=
  if maxSize ≤ (linesText (log.2 ++ [line])).utf8ByteSize then (log.1 ++ [log.2 ++ [line]], [])
  else (log.1, log.2 ++ [line])

/-- The lines of a log cut into the files a rotation closes, and the open one. -/
def splitLog (maxSize : Nat) (lines : List String) : List (List String) × List String :=
  lines.foldl (closeStep maxSize) ([], [])

@[simp]
theorem linesText_append (a b : List String) : linesText (a ++ b) = linesText a ++ linesText b := by
  simp [linesText, String.join_append]

theorem join_map_linesText (files : List (List String)) :
    String.join (files.map linesText) = linesText files.flatten := by
  induction files with
  | nil => rfl
  | cons file files ih => simp [String.join_cons, ih]

/-- The files of a cut hold the lines in order: no line is lost or repeated. -/
theorem splitLog_flatten (maxSize : Nat) (lines : List String) :
    (splitLog maxSize lines).1.flatten ++ (splitLog maxSize lines).2 = lines := by
  -- the invariant of the fold: what the cut holds is what it started with and the lines read
  have hfold : ∀ (lines : List String) (log : List (List String) × List String),
      (lines.foldl (closeStep maxSize) log).1.flatten ++ (lines.foldl (closeStep maxSize) log).2 =
        log.1.flatten ++ log.2 ++ lines := by
    intro lines
    induction lines with
    | nil => simp
    | cons line lines ih =>
      intro log
      rw [List.foldl_cons, ih]
      unfold closeStep
      split <;> simp
  simpa [splitLog] using hfold lines ([], [])

/-- The writer holds the open file of `log` live and the last `maxFile - 1` closed files,
    the newest in `path.1.gz`. -/
structure Keeps (w : RotatingWriter) (log : List (List String) × List String) : Prop where
  rotated_eq : w.files.rotated = Slots.ofList ((log.1.map linesText).reverse.take (w.maxFile - 1))
  live_eq : w.files.live = linesText log.2
  written_eq : w.written = (linesText log.2).utf8ByteSize
  written_lt : w.written < w.maxSize

@[simp]
theorem writeLine_maxSize (w : RotatingWriter) (line : String) :
    (w.writeLine line).maxSize = w.maxSize := by
  simp only [RotatingWriter.writeLine]
  split <;> rfl

@[simp]
theorem writeLine_maxFile (w : RotatingWriter) (line : String) :
    (w.writeLine line).maxFile = w.maxFile := by
  simp only [RotatingWriter.writeLine]
  split <;> rfl

@[simp]
theorem rotate_maxFile (w : RotatingWriter) : w.rotate.maxFile = w.maxFile := rfl

/-- With `max_file ≥ 2`, a rotation of a writer whose rotated files are a list that leaves
    `path.max_file.gz` free puts the live file in front of the list, keeping `max_file - 1`. -/
theorem rotate_rotated {w : RotatingWriter} {retained : List String} (hfile : 2 ≤ w.maxFile)
    (hlen : retained.length ≤ w.maxFile - 1) (hrotated : w.files.rotated = Slots.ofList retained) :
    w.rotate.files.rotated = Slots.ofList ((w.files.live :: retained).take (w.maxFile - 1)) := by
  obtain ⟨k, hk⟩ : ∃ k, w.maxFile = k + 2 := ⟨w.maxFile - 2, by omega⟩
  have hshift : k + 2 - 1 = k + 1 := rfl
  simp only [RotatingWriter.rotate]
  rw [hrotated, hk, hshift, Function.update_comm (by omega : k + 2 ≠ 1),
    Slots.shiftUp_ofList (by omega)]
  exact Slots.update_ofList_none (by simp; omega)

theorem Keeps.fresh {maxSize maxFile : Nat} (hsize : 1 ≤ maxSize) :
    Keeps (RotatingWriter.new .fresh maxSize maxFile) ([], []) where
  rotated_eq := by
    funext j
    cases j <;> simp [RotatingWriter.new, LogFiles.fresh, Slots.ofList]
  live_eq := rfl
  written_eq := rfl
  written_lt := hsize

/-- One line keeps the invariant. `written` is below `max_size` before the line, so with
    `hfits` adding the line does not wrap, and the writer rotates exactly when the cut
    closes a file. -/
theorem Keeps.writeLine {w : RotatingWriter} {log : List (List String) × List String}
    (hkeeps : Keeps w log) (hfile : 2 ≤ w.maxFile) (hsize : 1 ≤ w.maxSize) {line : String}
    (hfits : w.maxSize + (line ++ "\n").utf8ByteSize < 2 ^ 64) :
    Keeps (w.writeLine line) (closeStep w.maxSize log line) := by
  have hlive : w.files.live ++ (line ++ "\n") = linesText (log.2 ++ [line]) := by
    simp [hkeeps.live_eq, linesText]
  have hsum : (w.written + (line ++ "\n").utf8ByteSize) % 2 ^ 64 =
      (linesText (log.2 ++ [line])).utf8ByteSize := by
    have hlt := hkeeps.written_lt
    rw [Nat.mod_eq_of_lt (by omega), ← hlive, String.utf8ByteSize_append (s := w.files.live),
      hkeeps.written_eq, hkeeps.live_eq]
  unfold RotatingWriter.writeLine closeStep
  simp only [hsum, ge_iff_le]
  by_cases hclose : w.maxSize ≤ (linesText (log.2 ++ [line])).utf8ByteSize
  · -- the line closes the open file: the rotation compresses it into `path.1.gz`
    rw [if_pos hclose, if_pos hclose]
    have hrotated := rotate_rotated (w := { w with
        files := { w.files with live := w.files.live ++ (line ++ "\n") },
        written := (linesText (log.2 ++ [line])).utf8ByteSize }) hfile
      (List.length_take_le _ _) hkeeps.rotated_eq
    obtain ⟨k, hk⟩ : ∃ k, w.maxFile - 1 = k + 1 := ⟨w.maxFile - 2, by omega⟩
    refine ⟨?_, rfl, rfl, by simp [RotatingWriter.rotate]; omega⟩
    rw [hrotated]
    simp only [hlive, hk, List.map_append, List.map_singleton, List.reverse_append,
      List.reverse_singleton, List.singleton_append, List.take_succ_cons, List.take_take,
      rotate_maxFile, min_eq_left (Nat.le_succ k)]
  · rw [if_neg hclose, if_neg hclose]
    exact ⟨hkeeps.rotated_eq, hlive.trans rfl, rfl, by simp only; omega⟩

@[simp]
theorem writeLines_maxSize (w : RotatingWriter) (lines : List String) :
    (w.writeLines lines).maxSize = w.maxSize := by
  induction lines generalizing w with
  | nil => rfl
  | cons line lines ih => exact (ih (w.writeLine line)).trans (writeLine_maxSize w line)

@[simp]
theorem writeLines_maxFile (w : RotatingWriter) (lines : List String) :
    (w.writeLines lines).maxFile = w.maxFile := by
  induction lines generalizing w with
  | nil => rfl
  | cons line lines ih => exact (ih (w.writeLine line)).trans (writeLine_maxFile w line)

/-- The invariant along a run of lines. -/
theorem Keeps.writeLines {w : RotatingWriter} {log : List (List String) × List String}
    (hkeeps : Keeps w log) (hfile : 2 ≤ w.maxFile) (hsize : 1 ≤ w.maxSize) {lines : List String}
    (hfits : ∀ line ∈ lines, w.maxSize + (line ++ "\n").utf8ByteSize < 2 ^ 64) :
    Keeps (w.writeLines lines) (lines.foldl (closeStep w.maxSize) log) := by
  induction lines generalizing w log with
  | nil => exact hkeeps
  | cons line lines ih =>
    have hnext := hkeeps.writeLine hfile hsize (hfits line List.mem_cons_self)
    have hrest := ih hnext (by simpa using hfile) (by simpa using hsize)
      (fun l hl => by simpa using hfits l (List.mem_cons_of_mem line hl))
    simpa [RotatingWriter.writeLines] using hrest

/-- The files of a writer that keeps a cut: the live one and `path.1.gz` up to
    `path.(max_file - 1).gz`, at most `max_file` in all. -/
theorem Keeps.encard_le {w : RotatingWriter} {log : List (List String) × List String}
    (hkeeps : Keeps w log) (hfile : 1 ≤ w.maxFile) :
    {file | w.files.fileExists file}.encard ≤ w.maxFile := by
  let candidates : Finset LogFile :=
    insert .live ((Finset.Ico 1 w.maxFile).image LogFile.rotated)
  have hsub : {file | w.files.fileExists file} ⊆ ↑candidates := by
    intro file hexists
    cases file with
    | live => exact Finset.mem_insert_self _ _
    | rotated index =>
      have hsome : (Slots.ofList ((log.1.map linesText).reverse.take (w.maxFile - 1)) index).isSome := by
        rw [← hkeeps.rotated_eq]
        exact hexists
      have hrange := Slots.isSome_ofList.mp hsome
      have hlen := List.length_take_le (w.maxFile - 1) (log.1.map linesText).reverse
      refine Finset.mem_insert_of_mem (Finset.mem_image_of_mem _ ?_)
      rw [Finset.mem_Ico]
      omega
  have hcard : candidates.card ≤ w.maxFile :=
    calc candidates.card
        ≤ ((Finset.Ico 1 w.maxFile).image LogFile.rotated).card + 1 := Finset.card_insert_le _ _
      _ ≤ (Finset.Ico 1 w.maxFile).card + 1 := Nat.add_le_add_right Finset.card_image_le 1
      _ ≤ w.maxFile := by rw [Nat.card_Ico]; omega
  calc {file | w.files.fileExists file}.encard
      ≤ (↑candidates : Set LogFile).encard := Set.encard_le_encard hsub
    _ = candidates.card := Set.encard_coe_eq_coe_finsetCard candidates
    _ ≤ w.maxFile := by exact_mod_cast hcard

/-- What a reader gets from a writer that keeps a cut of `lines`: the lines from the first
    one of the last `max_file - 1` closed files on. -/
theorem Keeps.read {w : RotatingWriter} {log : List (List String) × List String}
    (hkeeps : Keeps w log) {lines : List String} (hsplit : log.1.flatten ++ log.2 = lines) :
    w.files.read w.maxFile =
      linesText (lines.drop (log.1.take (log.1.length - (w.maxFile - 1))).flatten.length) := by
  have hlen : ((log.1.map linesText).reverse.take (w.maxFile - 1)).length ≤ w.maxFile :=
    (List.length_take_le _ _).trans (Nat.sub_le _ _)
  -- the rotated files, highest first, are the last closed files, oldest first
  have hrotated : (List.range' 1 w.maxFile).reverse.filterMap w.files.rotated =
      (log.1.drop (log.1.length - (w.maxFile - 1))).map linesText := by
    rw [List.filterMap_reverse, hkeeps.rotated_eq, Slots.filterMap_ofList hlen, List.reverse_take,
      List.reverse_reverse, List.length_reverse, List.length_map, List.map_drop]
  have hlines : lines.drop (log.1.take (log.1.length - (w.maxFile - 1))).flatten.length =
      (log.1.drop (log.1.length - (w.maxFile - 1))).flatten ++ log.2 := by
    have hcut : log.1.flatten = (log.1.take (log.1.length - (w.maxFile - 1))).flatten ++
        (log.1.drop (log.1.length - (w.maxFile - 1))).flatten := by
      rw [← List.flatten_append, List.take_append_drop]
    rw [← hsplit, hcut, List.append_assoc, List.drop_left]
  rw [LogFiles.read, hrotated, join_map_linesText, hkeeps.live_eq, hlines, linesText_append]

theorem rotating_writer_keeps_last_files {maxSize maxFile : Nat} (hsize : 1 ≤ maxSize)
    (hfile : 2 ≤ maxFile) {lines : List String}
    (hfits : ∀ line ∈ lines, maxSize + (line ++ "\n").utf8ByteSize < 2 ^ 64) :
    let w := (RotatingWriter.new .fresh maxSize maxFile).writeLines lines
    let log := splitLog maxSize lines
    {file | w.files.fileExists file}.encard ≤ maxFile ∧
      w.files.live.utf8ByteSize = w.written ∧ w.written < maxSize ∧
      w.files.read maxFile =
        linesText (lines.drop (log.1.take (log.1.length - (maxFile - 1))).flatten.length) := by
  intro w log
  have hkeeps : Keeps w log := (Keeps.fresh hsize).writeLines hfile hsize hfits
  have hmaxFile : w.maxFile = maxFile := writeLines_maxFile _ _
  have hmaxSize : w.maxSize = maxSize := writeLines_maxSize _ _
  refine ⟨?_, ?_, ?_, ?_⟩
  · rw [← hmaxFile]
    exact hkeeps.encard_le (by omega)
  · rw [hkeeps.written_eq, hkeeps.live_eq]
  · rw [← hmaxSize]
    exact hkeeps.written_lt
  · rw [← hmaxFile]
    exact hkeeps.read (splitLog_flatten maxSize lines)

theorem three_lines_keep_last_file :
    let w := (RotatingWriter.new .fresh 3 2).writeLines ["ab", "c", "de"]
    let log := splitLog 3 ["ab", "c", "de"]
    {file | w.files.fileExists file}.encard ≤ 2 ∧
      w.files.live.utf8ByteSize = w.written ∧ w.written < 3 ∧
      w.files.read 2 =
        linesText (["ab", "c", "de"].drop (log.1.take (log.1.length - (2 - 1))).flatten.length) :=
  rotating_writer_keeps_last_files (by decide) (by decide) (by decide)

/-- With `max_file = 2`, the second rotation replaces the first closed file. -/
example : ((RotatingWriter.new .fresh 3 2).writeLines ["ab", "c", "de"]).files.read 2 = "c\nde\n" := by
  decide

end A3sBox
