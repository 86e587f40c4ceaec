import Mathlib

/-
  A file system with symbolic links, and how a path resolves in it.

  Model. A location is the list of names from the root; a file system says what node is
  at each location, a directory, a file with its contents, or a symbolic link with the
  components of its target. The root is a directory and is not stored. A path is a list
  of components as `Path::components` gives them (`components`), and two paths are
  equal when their components are (`samePath`). `resolve` is the walk of the kernel's
  path lookup: from a resolved location it takes one component at a time and follows
  every link, at most `symlinkLimit` of them (`ELOOP` past that), a relative target
  from the link's directory and `..` from the resolved location. `canonicalize` is
  `fs::canonicalize`, `locate` the location `symlink_metadata` and `remove_file` act on
  (the last component is not followed), and `createDirs` the walk of `create_dir_all`,
  which also makes the missing directories, each only where `allowed` lets it.
-/

namespace A3sBox.Lib.Fs

/-- A component of a path. -/
inductive Component (α : Type) where
  | rootDir
  | curDir
  | parentDir
  | normal (name : α)
deriving DecidableEq

/-- `Path::components` of a Unix path: a leading `/` is the root, empty segments and
    `.` are skipped except a leading `.`, and `..` is the parent. -/
def components (path : List Char) : List (Component (List Char)) :=
  let body := (path.splitOn '/').filterMap fun segment =>
    if segment = [] ∨ segment = ['.'] then none
    else if segment = ['.', '.'] then some .parentDir
    else some (.normal segment)
  match path with
  | '/' :: _ => .rootDir :: body
  | '.' :: '/' :: _ => .curDir :: body
  | ['.'] => [.curDir]
  | _ => body

/-- `Path::eq`: two paths are equal when their components are. -/
def samePath (a b : List Char) : Bool := components a == components b

/-- What is at a location. -/
inductive Node (α β : Type) where
  | dir
  | file (contents : β)
  | symlink (target : List (Component α))
deriving DecidableEq

/-- A file system: the node at each location, if any. -/
structure FileSystem (α β : Type) where
  node : List α → Option (Node α β)

variable {α β : Type}

/-- Whether a location is a directory; the root always is. -/
def FileSystem.isDir (fs : FileSystem α β) (loc : List α) : Bool :=
  match loc, fs.node loc with
  | [], _ => true
  | _, some .dir => true
  | _, _ => false

/-- Linux's bound on the links one lookup follows (`MAXSYMLINKS`). -/
def symlinkLimit : Nat := 40

/-- Resolve `comps` from the resolved location `cur`, following every link, at most
    `fuel` of them. `none` is a missing component, a file passed through, or a loop. -/
def resolve (fs : FileSystem α β) (fuel : Nat) (cur : List α) : List (Component α) → Option (List α)
  | [] => some cur
  | .rootDir :: rest => resolve fs fuel [] rest
  | .curDir :: rest => resolve fs fuel cur rest
  | .parentDir :: rest => resolve fs fuel cur.dropLast rest
  | .normal name :: rest =>
    match fs.node (cur ++ [name]) with
    | none => none
    | some .dir => resolve fs fuel (cur ++ [name]) rest
    | some (.file _) => if rest = [] then some (cur ++ [name]) else none
    | some (.symlink target) =>
      match fuel with
      | 0 => none
      | fuel + 1 => resolve fs fuel cur (target ++ rest)
termination_by comps => (fuel, comps.length)

/-- `fs::canonicalize` of an absolute path. -/
def canonicalize (fs : FileSystem α β) (path : List (Component α)) : Option (List α) :=
  resolve fs symlinkLimit [] path

/-- The location a path names when its last component is not followed. -/
def locate (fs : FileSystem α β) (cur : List α) (comps : List (Component α)) : Option (List α) :=
  match comps.getLast? with
  | some (.normal name) => (resolve fs symlinkLimit cur comps.dropLast).map (· ++ [name])
  | _ => resolve fs symlinkLimit cur comps

/-- Every location from `cur` down to `cur ++ names` is a directory. -/
def DirsBelow (fs : FileSystem α β) (cur names : List α) : Prop :=
  ∀ k, 0 < k → k ≤ names.length → fs.node (cur ++ names.take k) = some .dir

theorem DirsBelow.tail {fs : FileSystem α β} {cur : List α} {name : α} {names : List α}
    (h : DirsBelow fs cur (name :: names)) : DirsBelow fs (cur ++ [name]) names := by
  intro k hpos hk
  have hnode := h (k + 1) (Nat.succ_pos k) (by simpa using hk)
  simpa using hnode

theorem DirsBelow.head {fs : FileSystem α β} {cur : List α} {name : α} {names : List α}
    (h : DirsBelow fs cur (name :: names)) : fs.node (cur ++ [name]) = some .dir := by
  simpa using h 1 Nat.one_pos (by simp)

/-! ## Walking through directories -/

theorem resolve_dirs {fs : FileSystem α β} {fuel : Nat} {cur names : List α}
    (h : DirsBelow fs cur names) (rest : List (Component α)) :
    resolve fs fuel cur (names.map .normal ++ rest) = resolve fs fuel (cur ++ names) rest := by
  -- one directory at a time
  induction names generalizing cur with
  | nil => simp
  | cons name names ih =>
    rw [List.map_cons, List.cons_append, resolve, h.head]
    simpa using ih h.tail

variable [DecidableEq α]

namespace FileSystem

/-- Put a node at a location. -/
def set (fs : FileSystem α β) (loc : List α) (n : Node α β) : FileSystem α β :=
  ⟨fun q => if q = loc then some n else fs.node q⟩

/-- `remove_dir_all` or `remove_file`: the location and everything below it go. -/
def removeTree (fs : FileSystem α β) (loc : List α) : FileSystem α β :=
  ⟨fun q => if loc <+: q then none else fs.node q⟩

/-- Remove everything below a location and keep the location itself. -/
def removeBelow (fs : FileSystem α β) (loc : List α) : FileSystem α β :=
  ⟨fun q => if loc <+: q ∧ q ≠ loc then none else fs.node q⟩

@[simp] theorem node_set (fs : FileSystem α β) (loc q : List α) (n : Node α β) :
    (fs.set loc n).node q = if q = loc then some n else fs.node q := rfl

@[simp] theorem node_removeTree (fs : FileSystem α β) (loc q : List α) :
    (fs.removeTree loc).node q = if loc <+: q then none else fs.node q := rfl

@[simp] theorem node_removeBelow (fs : FileSystem α β) (loc q : List α) :
    (fs.removeBelow loc).node q = if loc <+: q ∧ q ≠ loc then none else fs.node q := rfl

end FileSystem

open FileSystem

/-- `create_dir_all`, from the resolved location `cur`: each missing directory is made
    where `allowed` holds of the location it is made in, and the resolved location of
    the whole path is returned. A link must lead to a directory that exists. -/
def createDirs (allowed : List α → Bool) (fs : FileSystem α β) (fuel : Nat) (cur : List α) :
    List (Component α) → Option (FileSystem α β × List α)
  | [] => some (fs, cur)
  | .rootDir :: rest => createDirs allowed fs fuel [] rest
  | .curDir :: rest => createDirs allowed fs fuel cur rest
  | .parentDir :: rest => createDirs allowed fs fuel cur.dropLast rest
  | .normal name :: rest =>
    match fs.node (cur ++ [name]) with
    | none =>
      if allowed cur then createDirs allowed (fs.set (cur ++ [name]) .dir) fuel (cur ++ [name]) rest
      else none
    | some .dir => createDirs allowed fs fuel (cur ++ [name]) rest
    | some (.file _) => none
    | some (.symlink target) =>
      match fuel with
      | 0 => none
      | fuel + 1 =>
        match resolve fs fuel cur target with
        | some loc => if fs.isDir loc then createDirs allowed fs fuel loc rest else none
        | none => none
termination_by comps => (fuel, comps.length)

theorem createDirs_dirs {allowed : List α → Bool} {fs : FileSystem α β} {fuel : Nat}
    {cur names : List α} (h : DirsBelow fs cur names) (rest : List (Component α)) :
    createDirs allowed fs fuel cur (names.map .normal ++ rest) =
      createDirs allowed fs fuel (cur ++ names) rest := by
  induction names generalizing cur with
  | nil => simp
  | cons name names ih =>
    rw [List.map_cons, List.cons_append, createDirs, h.head]
    simpa using ih h.tail

theorem DirsBelow.set_of_length {fs : FileSystem α β} {base loc : List α} (hdirs : DirsBelow fs [] base)
    (hlen : base.length < loc.length) (n : Node α β) : DirsBelow (fs.set loc n) [] base := by
  intro k hpos hk
  have hne : base.take k ≠ loc := by
    intro heq
    have hlen' := congrArg List.length heq
    simp at hlen'
    omega
  simpa [hne] using hdirs k hpos hk

end A3sBox.Lib.Fs
