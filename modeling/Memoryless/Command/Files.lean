import Memoryless.Bytes
import Memoryless.Command.Location

/-!
# Files

What the program asks of the disk, and a disk that is a map from locations to files and directories. A
path is followed step by step, and each step but the last has to lead to a directory that is there, even
if the next one leads back. The map holds what is below the directory in which the program runs;
elsewhere there is nothing at first but the directories that lead there.
-/

namespace Memoryless.Command

/-- Why a file cannot be read or written. -/
inductive FileError
  | notFound
  | isDirectory
  | notDirectory
  | nameTooLong
  | other (message : String)
  deriving DecidableEq, Repr

/-- The wording of an error. -/
def FileError.message : FileError → String
  | notFound => "No such file or directory (os error 2)"
  | isDirectory => "Is a directory (os error 21)"
  | notDirectory => "Not a directory (os error 20)"
  | nameTooLong => "File name too long (os error 36)"
  | other message => message

/-- What the program asks of the disk. Writing replaces the whole file, or makes a new one. -/
structure Disk (m : Type → Type) where
  read : String → m (Except FileError Bytes)
  write : String → Bytes → m (Except FileError Unit)

/-- What a path may lead to. -/
inductive Node
  | file (bytes : Bytes)
  | directory
  deriving DecidableEq, Repr

/-- Files and directories by their location. Origins have no entry. -/
abbrev FileMap := List (Location × Node)

namespace FileMap

/-- What is at a location. -/
def get? (files : FileMap) (l : Location) : Option Node :=
  if l.names = [] then some .directory else files.lookup l

/-- What is at a location, unless no file can be there. -/
def find (files : FileMap) (l : Location) : Except FileError (Option Node) :=
  if l.isTooLong then .error .nameTooLong else .ok (files.get? l)

/-- Follows a step to a directory. -/
def enter (files : FileMap) (l : Location) (step : PathStep) : Except FileError Location := do
  match ← files.find (l.follow step) with
  | none => throw .notFound
  | some (.file _) => throw .notDirectory
  | some .directory => return l.follow step

/-- Where a path leads. All steps but the last are followed to directories. -/
def resolve (files : FileMap) (path : Path) : Except FileError Location := do
  let directory ← path.steps.dropLast.foldlM files.enter ⟨path.origin, []⟩
  return path.steps.getLast?.elim directory directory.follow

/-- Reads a path and follows it. A path that is too long is not followed at all. -/
def locate (files : FileMap) (text : String) : Except FileError (Path × Location) := do
  if Path.limit < text.utf8ByteSize then throw .nameTooLong
  let path := Path.ofText text
  return (path, ← files.resolve path)

/-- Reads a file. With a slash after it, it should have been a directory. -/
def read (files : FileMap) (text : String) : Except FileError Bytes := do
  let (path, l) ← files.locate text
  match ← files.find l with
  | none => throw .notFound
  | some .directory => throw .isDirectory
  | some (.file bytes) =>
    if path.endsInSlash then throw .notDirectory
    return bytes

/-- Puts a file at a location, in place of the one that is there. -/
def put (files : FileMap) (l : Location) (bytes : Bytes) : FileMap :=
  match files with
  | [] => [(l, .file bytes)]
  | entry :: rest =>
    if entry.1 = l then (l, .file bytes) :: rest else entry :: put rest l bytes

/-- Writes a file. What a slash ends is taken to be a directory without looking. -/
def write (files : FileMap) (text : String) (bytes : Bytes) : Except FileError FileMap := do
  let (path, l) ← files.locate text
  if path.endsInSlash then throw .isDirectory
  match ← files.find l with
  | some .directory => throw .isDirectory
  | _ => return files.put l bytes

/-- The disk that a file map is. -/
def disk : Disk (StateM FileMap) where
  read path := do
    return (← get).read path
  write path bytes := do
    match (← get).write path bytes with
    | .error e => return .error e
    | .ok files =>
      set files
      return .ok ()

theorem get?_put (files : FileMap) {l : Location} (named : l.names ≠ []) (bytes : Bytes)
    (k : Location) :
    (files.put l bytes).get? k = if k = l then some (.file bytes) else files.get? k := by
  unfold get?
  by_cases origin : k.names = []
  · have apart : k ≠ l := fun same => named (same ▸ origin)
    simp [origin, apart]
  · simp only [origin, if_false]
    induction files with
    | nil =>
        by_cases same : k = l
        · simp [put, same]
        · have apart : (k == l) = false := by simpa using same
          simp [put, List.lookup_cons, apart, same]
    | cons entry rest ih =>
        obtain ⟨place, node⟩ := entry
        by_cases here : place = l
        · subst here
          by_cases same : k = place
          · simp [put, same]
          · have apart : (k == place) = false := by simpa using same
            simp [put, List.lookup_cons, apart, same]
        · by_cases same : k = place
          · simp [put, same, here]
          · have apart : (k == place) = false := by simpa using same
            simpa [put, here, List.lookup_cons, apart] using ih

end FileMap

end Memoryless.Command
