import ContractBench.Disk

/-! # Operations on files

Each operation follows a path and reads or changes the disk, or fails. One that fails changes
nothing, but for two of them: making a folder with the folders above it is a series of operations
and keeps what it has made when a later one fails, and a file that is written is emptied before it
shows whether there is room for its bytes.
-/

namespace ContractBench

/-- A computation on a disk that may fail; what it changed before it failed stays. -/
abbrev FileOp := ExceptT FileError (StateM Disk)

namespace FileOp

/-- Fail at a path. -/
def fail {α : Type} (path : Path) (fault : FileFault) : FileOp α := throw ⟨fault, path.toText⟩

/-- Follow a path. -/
def locate (path : Path) : FileOp Disk.Found := do
  match (← get).find path with
  | .ok found => return found
  | .error fault => fail path fault

/-- Put a node on the disk. -/
def put (place : Location) (node : Node) : FileOp Unit := modify fun disk => disk.put place node

/-- The bytes of a file. -/
def readBytes (path : Path) : FileOp (List UInt8) := do
  match ← locate path with
  | .node _ (.file bytes _) => return bytes
  | .node _ .folder => fail path .isFolder
  | .gap _ => fail path .notFound

/-- Write bytes to a file that was opened, and is empty by then. It stays empty if there is no
    room. -/
def fill (path : Path) (place : Location) (kind : FileKind) (bytes : List UInt8) :
    FileOp Unit := do
  if (← get).hasRoom kind bytes then modify fun disk => disk.keep place kind bytes
  else
    modify fun disk => disk.keep place kind []
    fail path .noSpace

/-- Make a file with the given bytes, or replace the bytes of the one that is there. -/
def writeBytes (path : Path) (bytes : List UInt8) : FileOp Unit := do
  match ← locate path with
  | .node place (.file _ kind) => fill path place kind bytes
  | .node _ .folder => fail path .isFolder
  | .gap place => fill path place .plain bytes

/-- Write a text to a file. -/
def writeText (path : Path) (text : String) : FileOp Unit := writeBytes path (Utf8.encode text)

/-- Make an empty file unless there is a file. -/
def touch (path : Path) : FileOp Unit := do
  match ← locate path with
  | .node _ (.file _ _) => return
  | .node _ .folder => fail path .isFolder
  | .gap place => put place (.file [] .plain)

/-- Remove a file. -/
def remove (path : Path) : FileOp Unit := do
  match ← locate path with
  | .node place (.file _ _) => modify fun disk => disk.erase place
  | .node _ .folder => fail path .isFolder
  | .gap _ => fail path .notFound

/-- Make a folder where nothing is. -/
def makeFolder (path : Path) : FileOp Unit := do
  match ← locate path with
  | .node _ _ => fail path .exists
  | .gap place => put place .folder

/-- Whether a path leads to a node of some kind. A path that is too long to be followed is an
    error, every other one that leads nowhere leads to no such node. -/
def leadsTo (path : Path) (kind : Node → Bool) : FileOp Bool := do
  match (← get).find path with
  | .ok (.node _ node) => return kind node
  | .ok (.gap _) => return false
  | .error .nameTooLong => fail path .nameTooLong
  | .error _ => return false

/-- Whether a path leads to anything. -/
def isThere (path : Path) : FileOp Bool := leadsTo path fun _ => true

/-- Whether a path leads to a folder. -/
def isFolder (path : Path) : FileOp Bool := leadsTo path fun node => node = .folder

/-- Whether a path leads to a file that keeps bytes. -/
def isFile (path : Path) : FileOp Bool := leadsTo path Node.isRegular

/-- Make a folder unless there is one. -/
def ensureFolder (path : Path) : FileOp Unit :=
  tryCatch (makeFolder path) fun e => do
    if e.fault = .notFound ∨ e.fault = .embeddedNul then throw e
    else if ← isFolder path then return
    else throw e

/-- Make a folder, given by its names from last to first, and all folders above it that are not
    there. -/
def ensureFoldersFrom (root : String) : List String → FileOp Unit
  | [] => ensureFolder ⟨root, []⟩
  | name :: above =>
    let path : Path := ⟨root, (name :: above).reverse⟩
    tryCatch (ensureFolder path) fun e => do
      if e.fault = .notFound then
        ensureFoldersFrom root above
        ensureFolder path
      else throw e

/-- Make a folder and all folders above it that are not there. -/
def ensureFolders (path : Path) : FileOp Unit := ensureFoldersFrom path.root path.parts.reverse

/-- The names of the files in a folder that do not begin with a dot, sorted. There are none where
    there is no folder. -/
def visibleFiles (path : Path) : FileOp (List String) := do
  if ← isFolder path then
    match (← get).find path with
    | .ok (.node place .folder) =>
      let disk ← get
      let names := (disk.namesIn place).filter fun name =>
        !name.startsWith "." && (disk.at? (place ++ [name])).any Node.isRegular
      return Disk.sortNames names
    | _ => return []
  else return []

end FileOp

end ContractBench
