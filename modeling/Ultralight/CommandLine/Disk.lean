/-
  Ultralight.CommandLine.Disk
  ───────────────────────────
  **Files, and the paths that lead to them.**

  A run reads and writes whole files by path.  What a path leads to is up to
  the file system, and any will do: a `FileSystem` is not held to any law, and
  that a file reads back as it was written is said of a path where it is
  needed (`FileSystem.ReadsBack`).

  A `Disk` is a file system of directories and files, without links and
  without permissions.  A path is walked from the working directory, or from
  the root if it starts with a slash, and where it gets to depends on the
  directories alone.

    • `Disk.read_write` — a file reads back as it was written,
    • `Disk.readsBack`  — so it does under every path.
-/
import Ultralight.Error

namespace Ultralight.CommandLine

/-! ## §1. File systems. -/

/-- A file system, as a run sees it.  A write that fails may leave something
behind. -/
class FileSystem (φ : Type) where
  /-- The contents of the file that a path leads to. -/
  read : φ → String → Except StreamFault Bytes
  /-- Write a file, anew or in place of an old one. -/
  write : φ → String → Bytes → Except StreamFault Unit × φ

/-- Whatever is written under a path reads back as it was written. -/
def FileSystem.ReadsBack {φ : Type} [FileSystem φ] (disk : φ) (path : String) : Prop :=
  ∀ contents, (write disk path contents).1 = .ok () →
    read (write disk path contents).2 path = .ok contents

/-! ## §2. Paths. -/

/-- The most bytes that a name may have. -/
def maxNameLength : Nat := 255

/-- The most bytes that a path may have. -/
def maxPathLength : Nat := 4095

/-- A path, taken apart at its slashes. -/
structure Path where
  /-- Whether it starts at the root. -/
  absolute : Bool
  /-- The names on the way, without the last. -/
  through : List String
  /-- The last name; none if there is no name, or if it is `.` or `..`, which
  are always directories. -/
  file : Option String
  /-- Whether a slash comes last, as if the last name were a directory. -/
  slashed : Bool
  deriving DecidableEq, Repr

/-- The path that a text spells. -/
def Path.parse (text : String) : Except StreamFault Path :=
  if text.toList.contains '\x00' then .error .nulInName
  else if text.isEmpty then .error .notFound
  else if maxPathLength < text.utf8ByteSize then .error .nameTooLong
  else
    let names := ((text.toList.splitOn '/').filter (· != [])).map String.ofList
    .ok {
      absolute := text.toList.head? == some '/'
      through := names.dropLast
      file := names.getLast?.filter fun name => name != "." && name != ".."
      slashed := text.toList.getLast? == some '/' }

/-! ## §3. Disks. -/

/-- The name of a file, and the names on the way from the root to it. -/
structure Location where
  directory : List String
  name : String
  deriving DecidableEq, Repr

/-- What is on a disk.  A directory is the list of the names on the way from
the root to it. -/
structure Disk where
  /-- The working directory. -/
  working : List String
  /-- Other directories. -/
  directories : List (List String)
  /-- Files by location. -/
  files : List (Location × Bytes)
  deriving DecidableEq, Repr

namespace Disk

/-- The disk with these files in the working directory, which is right below
the root. -/
def ofFiles (files : List (String × Bytes)) : Disk where
  working := ["work"]
  directories := []
  files := files.map fun (name, contents) => (⟨["work"], name⟩, contents)

/-- The files in the working directory. -/
def toFiles (disk : Disk) : List (String × Bytes) :=
  disk.files.filterMap fun (location, contents) =>
    if location.directory = disk.working then some (location.name, contents) else none

/-- Whether there is a directory with these names: one of those of the disk,
or one on the way to them. -/
def isDirectory (disk : Disk) (names : List String) : Bool :=
  (disk.working :: disk.directories).any names.isPrefixOf

/-- The contents of a file. -/
def find? (disk : Disk) (location : Location) : Option Bytes := disk.files.lookup location

/-- The directory that a name in a directory stands for. -/
def enter (disk : Disk) (directory : List String) (name : String) :
    Except StreamFault (List String) :=
  if name = "." then .ok directory
  else if name = ".." then .ok directory.dropLast
  else if maxNameLength < name.utf8ByteSize then .error .nameTooLong
  else if disk.isDirectory (directory ++ [name]) then .ok (directory ++ [name])
  else if (disk.find? ⟨directory, name⟩).isSome then .error .notDirectory
  else .error .notFound

/-- The directory of the last name of a path. -/
def walk (disk : Disk) (path : Path) : Except StreamFault (List String) :=
  path.through.foldlM disk.enter (if path.absolute then [] else disk.working)

/-- Read the file that a path leads to. -/
def read (disk : Disk) (text : String) : Except StreamFault Bytes := do
  let path ← Path.parse text
  let directory ← disk.walk path
  match path.file with
  | none => .error .isDirectory
  | some name =>
      if maxNameLength < name.utf8ByteSize then .error .nameTooLong
      else if disk.isDirectory (directory ++ [name]) then .error .isDirectory
      else
        match disk.find? ⟨directory, name⟩ with
        | none => .error .notFound
        | some contents => if path.slashed then .error .notDirectory else .ok contents

/-- Put a file at a location, anew or in place of an old one. -/
def put (disk : Disk) (location : Location) (contents : Bytes) : Disk :=
  { disk with
    files := (location, contents) :: disk.files.filter fun file => file.1 != location }

/-- Write the file that a path leads to.  A slash at the end makes the path
that of a directory before the name is looked at. -/
def write (disk : Disk) (text : String) (contents : Bytes) : Except StreamFault Disk := do
  let path ← Path.parse text
  let directory ← disk.walk path
  match path.file with
  | none => .error .isDirectory
  | some name =>
      if path.slashed then .error .isDirectory
      else if maxNameLength < name.utf8ByteSize then .error .nameTooLong
      else if disk.isDirectory (directory ++ [name]) then .error .isDirectory
      else .ok (disk.put ⟨directory, name⟩ contents)

@[default_instance]
instance : FileSystem Disk where
  read := Disk.read
  write disk text contents :=
    match disk.write text contents with
    | .ok written => (.ok (), written)
    | .error fault => (.error fault, disk)

/-! ## §4. What is written stays. -/

section

variable {ε α β : Type} {value : β}

/-- Two steps succeed if the first does, and then the second. -/
theorem bind_eq_ok {first : Except ε α} {next : α → Except ε β} :
    (first >>= next) = .ok value ↔ ∃ between, first = .ok between ∧ next between = .ok value := by
  cases first with
  | error error => exact ⟨nofun, nofun⟩
  | ok between => exact ⟨fun h => ⟨between, rfl, h⟩, fun ⟨_, rfl, h⟩ => h⟩

/-- A check is passed if it does not fail. -/
theorem ite_error_eq_ok {p : Prop} [Decidable p] {error : ε} {rest : Except ε β} :
    (if p then .error error else rest) = .ok value ↔ ¬ p ∧ rest = .ok value := by
  split <;> simp [*]

end

/-- A file is found where it is put. -/
@[simp] theorem find?_put (disk : Disk) (location : Location) (contents : Bytes) :
    (disk.put location contents).find? location = some contents := by
  simp [put, find?]

variable {disk written : Disk} {text : String} {contents : Bytes}

/-- Only the directories decide which name leads anywhere, and where: files
tell apart how a name can lead nowhere. -/
theorem enter_eq_ok_iff {directory next : List String} {name : String} :
    disk.enter directory name = .ok next ↔
      if name = "." then directory = next
      else if name = ".." then directory.dropLast = next
      else name.utf8ByteSize ≤ maxNameLength ∧ disk.isDirectory (directory ++ [name]) = true ∧
        directory ++ [name] = next := by
  unfold enter
  split
  · rw [Except.ok.injEq]
  split
  · rw [Except.ok.injEq]
  rw [ite_error_eq_ok, Nat.not_lt]
  refine and_congr_right fun _ => ?_
  split
  · next there => rw [Except.ok.injEq, and_iff_right there]
  · next missing => simp [ite_error_eq_ok, missing]

/-- A name that leads anywhere leads there whatever files are put. -/
theorem enter_put {location : Location} {directory next : List String} {name : String}
    (h : disk.enter directory name = .ok next) :
    (disk.put location contents).enter directory name = .ok next := by
  rw [enter_eq_ok_iff] at h ⊢
  exact h

/-- A walk that ends anywhere ends there whatever files are put. -/
theorem walk_put {location : Location} {path : Path} {directory : List String}
    (h : disk.walk path = .ok directory) :
    (disk.put location contents).walk path = .ok directory := by
  have along : ∀ (names start : List String), names.foldlM disk.enter start = .ok directory →
      names.foldlM (disk.put location contents).enter start = .ok directory := by
    intro names
    induction names with
    | nil => intro start h; exact h
    | cons name rest ih =>
        intro start h
        rw [List.foldlM_cons, bind_eq_ok] at h ⊢
        obtain ⟨next, entered, h⟩ := h
        exact ⟨next, enter_put entered, ih next h⟩
  exact along _ _ h

/-- Where a written file is put: at the location of its path, which is no
directory. -/
theorem write_eq_ok (h : disk.write text contents = .ok written) :
    ∃ path directory name, Path.parse text = .ok path ∧ disk.walk path = .ok directory ∧
      path.file = some name ∧ path.slashed = false ∧ name.utf8ByteSize ≤ maxNameLength ∧
      disk.isDirectory (directory ++ [name]) = false ∧
      written = disk.put ⟨directory, name⟩ contents := by
  obtain ⟨path, parsed, h⟩ := bind_eq_ok.mp h
  obtain ⟨directory, walked, h⟩ := bind_eq_ok.mp h
  rcases named : path.file with _ | name <;> rw [named] at h
  · cases h
  · simp only [ite_error_eq_ok, Bool.not_eq_true, Nat.not_lt] at h
    obtain ⟨unslashed, short, plain, made⟩ := h
    cases made
    exact ⟨path, directory, name, parsed, walked, named, unslashed, short, plain, rfl⟩

/-- A file reads back as it was written. -/
theorem read_write (h : disk.write text contents = .ok written) :
    written.read text = .ok contents := by
  obtain ⟨path, directory, name, parsed, walked, named, unslashed, short, plain, rfl⟩ :=
    write_eq_ok h
  have still : (disk.put ⟨directory, name⟩ contents).isDirectory (directory ++ [name]) = false :=
    plain
  refine bind_eq_ok.mpr ⟨path, parsed, bind_eq_ok.mpr ⟨directory, walk_put walked, ?_⟩⟩
  simp [named, unslashed, Nat.not_lt.mpr short, still]

/-- Whatever path a file is written under. -/
theorem readsBack (disk : Disk) (path : String) : FileSystem.ReadsBack disk path := by
  intro contents taken
  rcases writing : disk.write path contents with fault | written
  · simp [FileSystem.write, writing] at taken
  · simp only [FileSystem.write, writing]
    exact read_write writing

end Disk

end Ultralight.CommandLine
