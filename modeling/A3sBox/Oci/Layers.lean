import A3sBox.Lib.Fs
import A3sBox.Oci.DockerIgnore

/-
  Extracting an OCI layer into a rootfs (`runtime/src/oci/layers.rs`), without the
  metadata the image build tracks (`extract_layer`).

  Model. The rootfs lives in a `Lib.Fs` file system whose names are character lists; the
  target directory is an absolute path. A layer is its list of tar entries, each with
  the path and link name of its header, its type, its contents and whether its PAX
  extensions carry an overlayfs attribute. The loop skips a path with `..`, rejects a
  path that is absolute or names a reserved metadata file, applies the whiteouts
  `.wh..wh..opq` (clear the parent) and `.wh.<name>` (remove the sibling) below the
  parent resolved with `resolve_within`, clears the destination of a link entry, and
  hands the rest to `tar::Entry::unpack_in`. The tar crate is not part of the
  repository, so `unpack_in` is a parameter of the extractor (`UnpackIn`), and a result
  that depends on what it does states that as a hypothesis: `WritesAtResolvedParent`,
  an entry whose parent resolves inside the target is written there under its own
  name. Reading and decompressing the archive, the `fs` errors of the removals, and the
  Windows message for a symbolic link are not modelled.

  Proved:
  * `layer_writes_reserved_metadata`: a layer that plants a link `m -> .` and then
    writes `m/.a3s_rootfs_metadata_v1.json` (or any reserved name below `m`) passes
    the reserved-path check, which reads the entry's literal path, and every
    `unpack_in` that writes at the resolved parent writes the layer's contents into
    the reserved file at the root of the rootfs.
-/

namespace A3sBox.Oci

open A3sBox.Lib A3sBox.Lib.Str A3sBox.Lib.Fs A3sBox.Lib.Fs.FileSystem

/-- A path component whose names are character lists. -/
abbrev PathComponent := Component (List Char)

/-- The rootfs. -/
abbrev Rootfs (β : Type) := FileSystem (List Char) β

/-! ## Paths -/

/-- `Path::file_name`. -/
def fileName (comps : List PathComponent) : Option (List Char) :=
  match comps.getLast? with
  | some (.normal name) => some name
  | _ => none

/-- `Path::parent`, as its components. -/
def parent (comps : List PathComponent) : Option (List PathComponent) :=
  match comps.getLast? with
  | some (.normal _) | some .curDir | some .parentDir => some comps.dropLast
  | _ => none

/-- `normalize_layer_path`: the names of a relative path without `.`; an absolute path
    or one with `..` has none. -/
def normalizeLayerPath : List PathComponent → Option (List (List Char))
  | [] => some []
  | .curDir :: rest => normalizeLayerPath rest
  | .normal name :: rest => (normalizeLayerPath rest).map (name :: ·)
  | .parentDir :: _ | .rootDir :: _ => none

def imageRootfsMetadataPath : String := "/.a3s_image_metadata_v1.json"
def rootfsMetadataPath : String := "/.a3s_rootfs_metadata_v1.json"
def previousRootfsMetadataPath : String := "/.a3s_rootfs_metadata_v1.previous.json"
def imageRootfsMetadataTempPath : String := "/.a3s_image_metadata_v1.json.tmp"
def rootfsMetadataTempPath : String := "/.a3s_rootfs_metadata_v1.json.tmp"

/-- The reserved metadata files in the order `reserved_metadata_path` tests them. -/
def reservedMetadataPaths : List String :=
  [imageRootfsMetadataPath, rootfsMetadataPath, previousRootfsMetadataPath,
    imageRootfsMetadataTempPath, rootfsMetadataTempPath]

/-- A reserved path relative to the rootfs: its one name, without the leading `/`. -/
def reservedName (reserved : String) : List Char := reserved.toList.dropWhile (· = '/')

/-- `reserved_metadata_path`: the first reserved file that the path is, or is below. -/
def reservedMetadataPath (path : List (List Char)) : Option String :=
  reservedMetadataPaths.find? fun reserved => [reservedName reserved] <+: path

/-! ## Resolving inside the target -/

variable {β : Type}

/-- `resolve_within_or_base`: the resolved `target/rel`, only when it is inside the
    resolved target. -/
def resolveWithinOrBase (fs : Rootfs β) (target rel : List PathComponent) : Option (List (List Char)) :=
  match canonicalize fs target with
  | none => none
  | some base =>
    if rel = [] then some base
    else
      match canonicalize fs (.rootDir :: base.map .normal ++ rel) with
      | some resolved => if base <+: resolved then some resolved else none
      | none => none

/-- `resolve_within`. -/
def resolveWithin (fs : Rootfs β) (target rel : List PathComponent) : Option (List (List Char)) :=
  if rel = [] then canonicalize fs target else resolveWithinOrBase fs target rel

/-- `remove_path`: the location the path names, its last component not followed, goes
    with everything below it; a missing one is ignored. -/
def removePath (fs : Rootfs β) (dir : List (List Char)) (comps : List PathComponent) : Rootfs β :=
  match locate fs dir comps with
  | some loc => if fs.isDir loc || (fs.node loc).isSome then fs.removeTree loc else fs
  | none => fs

/-- `prepare_symlink_destination` (`removeFiles := false`) and
    `prepare_hardlink_destination` (`removeFiles := true`): below the parent resolved
    inside the target, a directory of the entry's name goes, and for a hard link any
    other node too. -/
def prepareDestination (removeFiles : Bool) (fs : Rootfs β) (target path : List PathComponent) :
    Rootfs β :=
  match fileName path with
  | none => fs
  | some name =>
    match resolveWithinOrBase fs target ((parent path).getD []) with
    | none => fs
    | some dir =>
      match fs.node (dir ++ [name]) with
      | some .dir => fs.removeTree (dir ++ [name])
      | some _ => if removeFiles then fs.removeTree (dir ++ [name]) else fs
      | none => fs

/-- `prepare_symlink_destination`. -/
def prepareSymlinkDestination (fs : Rootfs β) (target path : List PathComponent) : Rootfs β :=
  prepareDestination false fs target path

/-- `prepare_hardlink_destination`. -/
def prepareHardlinkDestination (fs : Rootfs β) (target path : List PathComponent) : Rootfs β :=
  prepareDestination true fs target path

/-! ## Entries -/

/-- `tar::EntryType`, as far as the extractor tells the types apart. -/
inductive EntryType where
  | regular
  | directory
  | symlink
  | hardLink
deriving DecidableEq

/-- What an entry's type asks to clear before it is unpacked. -/
def prepareLinkDestination (entryType : EntryType) (fs : Rootfs β) (target path : List PathComponent) :
    Rootfs β :=
  match entryType with
  | .symlink => prepareSymlinkDestination fs target path
  | .hardLink => prepareHardlinkDestination fs target path
  | _ => fs

/-- A tar entry. -/
structure Entry (β : Type) where
  path : List Char
  entryType : EntryType
  linkName : List Char
  contents : β
  overlayXattr : Bool

/-- `tar::Entry::unpack_in` as the `tar` crate computes it, for an entry and the text of
    the target directory: whether it unpacked the entry, or the text of the error's
    cause, and the rootfs after it. The crate is not part of the repository, so the
    extractor takes it as a parameter. -/
abbrev UnpackIn (β : Type) := Rootfs β → List Char → Entry β → Except String Bool × Rootfs β

/-- `BoxError::OciImageError` of a failed `unpack_in`, on a Unix host. -/
def unpackError (targetDir : List Char) (cause : String) : String :=
  ociImageError s!"Failed to extract layer to {String.ofList targetDir}: {cause}"

/-- The `?` on the result of `unpack_in`. -/
def unpackResult (targetDir : List Char) : Except String Bool × Rootfs β → Except String Unit × Rootfs β
  | (.ok _, fs) => (.ok (), fs)
  | (.error cause, fs) => (.error (unpackError targetDir cause), fs)

section Extract

variable (unpackIn : UnpackIn β)

/-- The loop body of `extract_layer_with_cap` for one entry. -/
def extractEntry (targetDir : List Char) (e : Entry β) (fs : Rootfs β) : Except String Unit × Rootfs β :=
  let target := components targetDir
  let path := components e.path
  let display := String.ofList e.path
  if path.contains .parentDir then (.ok (), fs)
  else
    match normalizeLayerPath path with
    | none => (.error (ociImageError s!"Invalid layer entry path: {display}"), fs)
    | some normalized =>
      match reservedMetadataPath normalized with
      | some reserved => (.error (ociImageError s!"OCI layer contains reserved internal path {reserved}"), fs)
      | none =>
        let name := (fileName path).getD []
        if name = ".wh..wh..opq".toList then
          -- the opaque marker clears its parent directory, resolved inside the target
          match (parent path).bind (resolveWithin fs target) with
          | some dir => (.ok (), fs.removeBelow dir)
          | none => (.ok (), fs)
        else
          match stripPrefix ".wh.".toList name with
          | some victimName =>
            match normalizeLayerPath ((parent path).getD [] ++ components victimName) with
            | none => (.error (ociImageError "Invalid whiteout path"), fs)
            | some victim =>
              match reservedMetadataPath victim with
              | some reserved =>
                (.error (ociImageError s!"OCI layer whiteouts reserved internal path {reserved}"), fs)
              | none =>
                match (parent path).bind (resolveWithin fs target) with
                | some dir => (.ok (), removePath fs dir (components victimName))
                | none => (.ok (), fs)
          | none =>
            let fs := prepareLinkDestination e.entryType fs target path
            if e.overlayXattr then
              (.error (ociImageError s!"OCI layer entry {display} contains reserved overlayfs metadata"), fs)
            else unpackResult targetDir (unpackIn fs targetDir e)

/-- The entry loop: it stops at the first error, and what was done before stays. -/
def extractEntries (targetDir : List Char) : List (Entry β) → Rootfs β → Except String Unit × Rootfs β
  | [], fs => (.ok (), fs)
  | e :: rest, fs =>
    match extractEntry unpackIn targetDir e fs with
    | (.ok (), fs) => extractEntries targetDir rest fs
    | (.error message, fs) => (.error message, fs)

/-- `extract_layer`: make the target directory, then extract the entries. -/
def extractLayer (targetDir : List Char) (entries : List (Entry β)) (fs : Rootfs β) :
    Except String Unit × Rootfs β :=
  match createDirs (fun _ => true) fs symlinkLimit [] (components targetDir) with
  | none => (.error (ociImageError s!"Failed to create target directory {String.ofList targetDir}"), fs)
  | some (fs, _) => extractEntries unpackIn targetDir entries fs

end Extract

/-! ## Paths of plain names -/

theorem PathSegment.components_eq {s : List Char} (hs : PathSegment s) :
    components s = [.normal s] := by
  have hnil : s ≠ [] := hs.ne_nil
  unfold components
  rw [List.splitOn_eq_singleton hs.no_slash]
  split
  · exact absurd List.mem_cons_self hs.no_slash
  · exact absurd (List.mem_cons_of_mem _ List.mem_cons_self) hs.no_slash
  · exact absurd rfl hs.not_dot
  · simp [hnil, hs.not_dot, hs.not_dotdot]

theorem PathSegment.components_append_slash {s f : List Char} (hs : PathSegment s)
    (hf : PathSegment f) : components (s ++ '/' :: f) = [.normal s, .normal f] := by
  obtain ⟨c, cs, rfl⟩ := List.exists_cons_of_ne_nil hs.ne_nil
  have hc : c ≠ '/' := fun h => hs.no_slash (h ▸ List.mem_cons_self)
  have hfnil : f ≠ [] := hf.ne_nil
  unfold components
  rw [List.splitOn_append_cons_self_of_not_mem hs.no_slash, List.splitOn_eq_singleton hf.no_slash]
  split
  · next rest heq => exact absurd (List.cons.inj heq).1 hc
  · next rest heq =>
    -- `s` would be `.` or hold a `/`
    obtain ⟨rfl, htail⟩ := List.cons.inj heq
    cases cs with
    | nil => exact absurd rfl hs.not_dot
    | cons d ds =>
      obtain ⟨rfl, -⟩ := List.cons.inj htail
      exact absurd (List.mem_cons_of_mem _ List.mem_cons_self) hs.no_slash
  · next heq =>
    have hlen := congrArg List.length heq
    simp at hlen
  · simp [hs.not_dot, hs.not_dotdot, hf.not_dot, hf.not_dotdot, hfnil]

/-- A name a layer can give an entry at the top of the rootfs: one path component, not
    a reserved name and not a whiteout. -/
structure PlainName (m : List Char) : Prop extends PathSegment m where
  not_reserved : ∀ reserved ∈ reservedMetadataPaths, m ≠ reservedName reserved
  not_whiteout : stripPrefix ".wh.".toList m = none

theorem reservedMetadataPath_cons {m : List Char}
    (h : ∀ reserved ∈ reservedMetadataPaths, m ≠ reservedName reserved) (rest : List (List Char)) :
    reservedMetadataPath (m :: rest) = none := by
  rw [reservedMetadataPath, List.find?_eq_none]
  intro reserved hmem hpre
  have hhead : reservedName reserved = m := (List.cons_prefix_cons.mp (of_decide_eq_true hpre)).1
  exact h reserved hmem hhead.symm

/-- The opaque marker is a whiteout name. -/
theorem ne_opaque_of_not_whiteout {name : List Char} (h : stripPrefix ".wh.".toList name = none) :
    name ≠ ".wh..wh..opq".toList := by
  intro heq
  rw [heq] at h
  exact absurd h (by decide)

theorem reservedName_plain : ∀ reserved ∈ reservedMetadataPaths,
    PathSegment (reservedName reserved) ∧ stripPrefix ".wh.".toList (reservedName reserved) = none := by
  intro reserved hmem
  simp only [reservedMetadataPaths, List.mem_cons, List.not_mem_nil, or_false] at hmem
  rcases hmem with rfl | rfl | rfl | rfl | rfl <;>
    exact ⟨⟨by decide, by decide, by decide, by decide⟩, by decide⟩

/-! ## An entry of plain names -/

theorem normalizeLayerPath_names (names : List (List Char)) :
    normalizeLayerPath (names.map .normal) = some names := by
  induction names with
  | nil => rfl
  | cons name names ih => simp [normalizeLayerPath, ih]

theorem fileName_names (names : List (List Char)) :
    fileName (names.map .normal) = names.getLast? := by
  cases hlast : names.getLast? with
  | none =>
    rw [List.getLast?_eq_none_iff] at hlast
    simp [fileName, hlast]
  | some name =>
    obtain ⟨init, rfl⟩ := List.getLast?_eq_some_iff.mp hlast
    simp [fileName]

/-- An entry of plain names, none of them reserved at the top and the last no whiteout,
    is unpacked after its destination is prepared. -/
theorem extractEntry_unpack {unpackIn : UnpackIn β} {targetDir : List Char} {e : Entry β}
    {fs : Rootfs β} {names : List (List Char)} {name : List Char}
    (hpath : components e.path = names.map .normal)
    (hreserved : reservedMetadataPath names = none) (hname : names.getLast? = some name)
    (hnotOpq : name ≠ ".wh..wh..opq".toList) (hwhiteout : stripPrefix ".wh.".toList name = none)
    (hxattr : e.overlayXattr = false) :
    extractEntry unpackIn targetDir e fs =
      unpackResult targetDir (unpackIn
        (prepareLinkDestination e.entryType fs (components targetDir) (names.map .normal))
        targetDir e) := by
  have hdots : (names.map (Component.normal : List Char → PathComponent)).contains .parentDir = false := by
    simp
  simp only [extractEntry, hpath, hdots, normalizeLayerPath_names, hreserved, fileName_names, hname,
    Option.getD_some, if_neg hnotOpq, hwhiteout, hxattr]
  rfl

/-! ## What the extractor needs of `unpack_in` -/

/-- What the extractor needs of `unpack_in`, as tar-rs does it (it joins the entry's
    normal names to the target, checks that their parent resolves inside the target,
    and writes the entry there): an entry whose parent already resolves inside the
    target is written at that resolved parent under its own name, a regular file with
    its contents and a symbolic link with its target, where no directory is. -/
def WritesAtResolvedParent (unpackIn : UnpackIn β) : Prop :=
  ∀ (fs : Rootfs β) (targetDir : List Char) (e : Entry β) (names : List (List Char))
    (name : List Char) (base dir : List (List Char)),
    components e.path = names.map .normal → names.getLast? = some name →
    canonicalize fs (components targetDir) = some base →
    canonicalize fs (components targetDir ++ names.dropLast.map .normal) = some dir →
    base <+: dir → fs.isDir (dir ++ [name]) = false →
    (e.entryType = .regular →
      unpackIn fs targetDir e = (.ok true, fs.set (dir ++ [name]) (.file e.contents))) ∧
    (e.entryType = .symlink →
      unpackIn fs targetDir e =
        (.ok true, fs.set (dir ++ [name]) (.symlink (components e.linkName))))

section Target

/-! ## A target directory that resolves to itself -/

variable {fs : Rootfs β} {targetDir : List Char} {base : List (List Char)}

/-- Below a target whose directories are in place, a path resolves from the target. -/
theorem canonicalize_target_append (htarget : components targetDir = .rootDir :: base.map .normal)
    (hdirs : DirsBelow fs [] base) (rest : List PathComponent) :
    canonicalize fs (components targetDir ++ rest) = resolve fs symlinkLimit base rest := by
  rw [canonicalize, htarget, List.cons_append, resolve]
  simpa using resolve_dirs hdirs rest

theorem canonicalize_target (htarget : components targetDir = .rootDir :: base.map .normal)
    (hdirs : DirsBelow fs [] base) : canonicalize fs (components targetDir) = some base := by
  have hwalk := canonicalize_target_append htarget hdirs []
  rw [List.append_nil] at hwalk
  rw [hwalk, resolve]

theorem createDirs_target (htarget : components targetDir = .rootDir :: base.map .normal)
    (hdirs : DirsBelow fs [] base) (allowed : List (List Char) → Bool) (fuel : Nat)
    (rest : List PathComponent) :
    createDirs allowed fs fuel [] (components targetDir ++ rest) = createDirs allowed fs fuel base rest := by
  rw [htarget, List.cons_append, createDirs]
  simpa using createDirs_dirs hdirs rest

theorem createDirs_target_self (htarget : components targetDir = .rootDir :: base.map .normal)
    (hdirs : DirsBelow fs [] base) (allowed : List (List Char) → Bool) (fuel : Nat) :
    createDirs allowed fs fuel [] (components targetDir) = some (fs, base) := by
  have hwalk := createDirs_target htarget hdirs allowed fuel []
  rw [List.append_nil] at hwalk
  rw [hwalk, createDirs]

end Target

/-! ## A reserved file written through a link -/

section ThroughLink

variable {unpackIn : UnpackIn β} (hunpack : WritesAtResolvedParent unpackIn) {fs : Rootfs β}
  {targetDir : List Char} {base : List (List Char)}
  (htarget : components targetDir = .rootDir :: base.map .normal) (hdirs : DirsBelow fs [] base)
  {m : List Char} (hm : PlainName m) (contents : β)
include hunpack htarget hdirs hm

/-- A symbolic link `m -> .` at the top of the target is planted as it is: its target is not
    checked. -/
theorem extractEntry_link_self (hfresh : fs.node (base ++ [m]) = none) :
    extractEntry unpackIn targetDir ⟨m, .symlink, ['.'], contents, false⟩ fs =
      (.ok (), fs.set (base ++ [m]) (.symlink [.curDir])) := by
  have hbase := canonicalize_target htarget hdirs
  have hmpath : components m = [m].map .normal := hm.components_eq
  have hprep : prepareLinkDestination .symlink fs (components targetDir) ([m].map .normal) = fs := by
    simp [prepareLinkDestination, prepareSymlinkDestination, prepareDestination, fileName, parent,
      resolveWithinOrBase, hbase, hfresh]
  have hparent : canonicalize fs (components targetDir ++ ([m].dropLast).map .normal) = some base := by
    simpa using hbase
  have hnotDir : fs.isDir (base ++ [m]) = false := by
    simp [FileSystem.isDir, hfresh]
  have hunpacked := (hunpack fs targetDir ⟨m, .symlink, ['.'], contents, false⟩ [m] m base base
    hmpath rfl hbase hparent (List.prefix_refl base) hnotDir).2 rfl
  rw [extractEntry_unpack hmpath (reservedMetadataPath_cons hm.not_reserved []) rfl
    (ne_opaque_of_not_whiteout hm.not_whiteout) hm.not_whiteout rfl, hprep, hunpacked]
  rfl

/-- Behind that link, an entry `m/<reserved>` passes the reserved-path check, which reads the
    entry's own path, and its parent `m` resolves through the link to the target itself: the
    reserved file is written at the top of the target. -/
theorem extractEntry_through_link {reserved : String} (hreserved : reserved ∈ reservedMetadataPaths)
    (hfree : fs.isDir (base ++ [reservedName reserved]) = false) :
    extractEntry unpackIn targetDir ⟨m ++ '/' :: reservedName reserved, .regular, [], contents, false⟩
      (fs.set (base ++ [m]) (.symlink [.curDir])) =
      (.ok (), (fs.set (base ++ [m]) (.symlink [.curDir])).set (base ++ [reservedName reserved])
        (.file contents)) := by
  obtain ⟨hR, hRwhiteout⟩ := reservedName_plain reserved hreserved
  have hRm : reservedName reserved ≠ m := fun h => hm.not_reserved reserved hreserved h.symm
  have hdirs₁ : DirsBelow (fs.set (base ++ [m]) (.symlink [.curDir])) [] base :=
    hdirs.set_of_length (by simp) _
  have hpath : components (m ++ '/' :: reservedName reserved) = [m, reservedName reserved].map .normal :=
    hm.components_append_slash hR
  have hparent : canonicalize (fs.set (base ++ [m]) (.symlink [.curDir]))
      (components targetDir ++ ([m, reservedName reserved].dropLast).map .normal) = some base := by
    rw [canonicalize_target_append htarget hdirs₁]
    simp [symlinkLimit, resolve]
  have hlast : [m, reservedName reserved].getLast? = some (reservedName reserved) := rfl
  -- the reserved file is not the link just planted
  have hfree₁ : (fs.set (base ++ [m]) (.symlink [.curDir])).isDir (base ++ [reservedName reserved]) = false := by
    have hne : base ++ [reservedName reserved] ≠ base ++ [m] := by simpa using hRm
    simpa [FileSystem.isDir, hne] using hfree
  have hunpacked := (hunpack _ targetDir ⟨m ++ '/' :: reservedName reserved, .regular, [], contents, false⟩
    _ _ base base hpath hlast (canonicalize_target htarget hdirs₁) hparent (List.prefix_refl base)
    hfree₁).1 rfl
  rw [extractEntry_unpack hpath (reservedMetadataPath_cons hm.not_reserved _) hlast
    (ne_opaque_of_not_whiteout hRwhiteout) hRwhiteout rfl]
  -- a regular entry clears nothing before it is unpacked
  dsimp only [prepareLinkDestination]
  rw [hunpacked]
  rfl

end ThroughLink

theorem layer_writes_reserved_metadata {unpackIn : UnpackIn β}
    (hunpack : WritesAtResolvedParent unpackIn) {fs : Rootfs β} {targetDir : List Char}
    {base : List (List Char)} (htarget : components targetDir = .rootDir :: base.map .normal)
    (hdirs : DirsBelow fs [] base) {m : List Char} (hm : PlainName m)
    (hfresh : fs.node (base ++ [m]) = none) {reserved : String}
    (hreserved : reserved ∈ reservedMetadataPaths)
    (hfree : fs.isDir (base ++ [reservedName reserved]) = false) (contents : β) :
    (extractLayer unpackIn targetDir [⟨m, .symlink, ['.'], contents, false⟩,
        ⟨m ++ '/' :: reservedName reserved, .regular, [], contents, false⟩] fs).1 = .ok () ∧
      (extractLayer unpackIn targetDir [⟨m, .symlink, ['.'], contents, false⟩,
        ⟨m ++ '/' :: reservedName reserved, .regular, [], contents, false⟩] fs).2.node
          (base ++ [reservedName reserved]) = some (.file contents) := by
  -- the first entry plants the link, and the second writes through it
  have hlink := extractEntry_link_self hunpack htarget hdirs hm contents hfresh
  have hwrite := extractEntry_through_link hunpack htarget hdirs hm contents hreserved hfree
  -- `extract_layer` finds the target in place and runs the two entries
  have hrun : extractLayer unpackIn targetDir [⟨m, .symlink, ['.'], contents, false⟩,
      ⟨m ++ '/' :: reservedName reserved, .regular, [], contents, false⟩] fs =
      (.ok (), (fs.set (base ++ [m]) (.symlink [.curDir])).set (base ++ [reservedName reserved])
        (.file contents)) := by
    simp only [extractLayer, createDirs_target_self htarget hdirs, extractEntries, hlink, hwrite]
  rw [hrun]
  exact ⟨rfl, by simp⟩

/-! ## An `unpack_in` for the example -/

/-- The normal names of a path, in order. -/
def normalNames (path : List Char) : List (List Char) :=
  (components path).filterMap fun
    | .normal name => some name
    | _ => none

theorem normalNames_eq {path : List Char} {names : List (List Char)}
    (h : components path = names.map .normal) : normalNames path = names := by
  rw [normalNames, h, List.filterMap_map]
  simp

/-- An `unpack_in` that does what `WritesAtResolvedParent` asks and refuses every other
    entry; the example below extracts a layer with it. -/
def unpackAtResolvedParent (fs : Rootfs β) (targetDir : List Char) (e : Entry β) :
    Except String Bool × Rootfs β :=
  let names := normalNames e.path
  match names.getLast?, canonicalize fs (components targetDir),
      canonicalize fs (components targetDir ++ names.dropLast.map .normal) with
  | some name, some base, some dir =>
    if base <+: dir ∧ fs.isDir (dir ++ [name]) = false then
      match e.entryType with
      | .regular => (.ok true, fs.set (dir ++ [name]) (.file e.contents))
      | .symlink => (.ok true, fs.set (dir ++ [name]) (.symlink (components e.linkName)))
      | _ => (.error "not a file or a link", fs)
    else (.error "outside the target", fs)
  | _, _, _ => (.error "not resolved", fs)

theorem unpackAtResolvedParent_writes :
    WritesAtResolvedParent (unpackAtResolvedParent : UnpackIn β) := by
  intro fs targetDir e names name base dir hpath hname hbase hdir hinside hfree
  have hnames := normalNames_eq hpath
  refine ⟨fun htype => ?_, fun htype => ?_⟩ <;>
    simp only [unpackAtResolvedParent, hnames, hname, hbase, hdir, hinside, hfree, htype, and_self,
      if_true]

/-- A rootfs at `/rootfs` and a layer whose link is `m`: the layer's `7` is written to
    `/rootfs/.a3s_rootfs_metadata_v1.json`. -/
theorem link_writes_rootfs_metadata :
    PlainName ['m'] ∧
      (extractLayer unpackAtResolvedParent ['/', 'r', 'o', 'o', 't', 'f', 's']
          [⟨['m'], .symlink, ['.'], 7, false⟩, ⟨['m'] ++ '/' :: reservedName rootfsMetadataPath, .regular, [], 7, false⟩]
          (⟨fun q => if q = [['r', 'o', 'o', 't', 'f', 's']] then some .dir else none⟩ : Rootfs Nat)).1 = .ok () ∧
      (extractLayer unpackAtResolvedParent ['/', 'r', 'o', 'o', 't', 'f', 's']
          [⟨['m'], .symlink, ['.'], 7, false⟩, ⟨['m'] ++ '/' :: reservedName rootfsMetadataPath, .regular, [], 7, false⟩]
          (⟨fun q => if q = [['r', 'o', 'o', 't', 'f', 's']] then some .dir else none⟩ : Rootfs Nat)).2.node
        ([['r', 'o', 'o', 't', 'f', 's']] ++ [reservedName rootfsMetadataPath]) = some (.file 7) := by
  have hm : PlainName ['m'] :=
    { ne_nil := List.cons_ne_nil _ _
      no_slash := by decide
      not_dot := by decide
      not_dotdot := by decide
      not_reserved := by decide
      not_whiteout := by decide }
  have hdirs : DirsBelow (⟨fun q => if q = [['r', 'o', 'o', 't', 'f', 's']] then some .dir else none⟩ : Rootfs Nat)
      [] [['r', 'o', 'o', 't', 'f', 's']] := by
    intro k hpos hk
    obtain rfl : k = 1 := by simp at hk; omega
    rfl
  exact ⟨hm, layer_writes_reserved_metadata unpackAtResolvedParent_writes (by decide) hdirs hm rfl
    (by decide) rfl 7⟩

end A3sBox.Oci
