import ContractBench.Disk.Path
import ContractBench.Text.Quoted
import ContractBench.Text.Utf8

/-! # Disks

A disk holds files and folders at locations, the lists of names that lead to them from the top.
`Disk.find` follows a path: every name but the last must lead to a folder, a double dot leads to
the folder above, and what the last name leads to may be missing.

Every file has one name: there are no links. Everything may be read, written, searched and removed:
there are no permissions. A disk is full or it has room for every file that is written; it does not
run full in the middle of one.
-/

namespace ContractBench

/-- What is done with the bytes of a file. -/
inductive FileKind where
  /-- They are kept. -/
  | plain
  /-- They are kept, and may be run as a program. -/
  | program
  /-- A device that takes all bytes and keeps none. -/
  | sink
  /-- A device that has no room for a byte. What is read from it never ends, which is left out. -/
  | full
  deriving Repr, DecidableEq

/-- Whether a file may be run. -/
def FileKind.isProgram (kind : FileKind) : Bool := kind = .program

/-- Whether a file keeps bytes. The others are devices. -/
def FileKind.isRegular (kind : FileKind) : Bool := kind = .plain || kind = .program

/-- What lies at a location. -/
inductive Node where
  /-- A file with its bytes. A device has none. -/
  | file (bytes : List UInt8) (kind : FileKind)
  /-- A folder. -/
  | folder
  deriving Repr, DecidableEq

/-- Whether a node is a file that keeps bytes. -/
def Node.isRegular : Node → Bool
  | .file _ kind => kind.isRegular
  | .folder => false

/-- The names from the top of the disk to a place on it. -/
abbrev Location := List String

/-- The files and folders of a disk, and the folder from which paths without a root lead. -/
structure Disk where
  /-- The folder from which paths lead. -/
  workDir : Location
  /-- What lies at each location; the top is a folder without an entry. -/
  nodes : List (Location × Node)
  /-- Whether no file takes a byte more. Files and folders can still be made. -/
  full : Bool := false
  deriving Repr, DecidableEq

/-- Why an operation on a path fails. -/
inductive FileFault where
  /-- Nothing is there. -/
  | notFound
  /-- Something is there already. -/
  | exists
  /-- A name on the way leads to a file. -/
  | notFolder
  /-- A folder is where a file must be. -/
  | isFolder
  /-- A name or the whole path is too long. -/
  | nameTooLong
  /-- There is no room for what is written. -/
  | noSpace
  /-- The path holds the character that ends paths. -/
  | embeddedNul
  deriving Repr, DecidableEq

/-- The number of a fault, zero for a path that the system never sees. -/
def FileFault.number : FileFault → Nat
  | .notFound => 2
  | .exists => 17
  | .notFolder => 20
  | .isFolder => 21
  | .noSpace => 28
  | .nameTooLong => 36
  | .embeddedNul => 0

/-- The words for a fault. -/
def FileFault.text : FileFault → String
  | .notFound => "No such file or directory"
  | .exists => "File exists"
  | .notFolder => "Not a directory"
  | .isFolder => "Is a directory"
  | .nameTooLong => "File name too long"
  | .noSpace => "No space left on device"
  | .embeddedNul => "embedded null byte"

/-- A failed operation on a path. -/
structure FileError where
  /-- The cause. -/
  fault : FileFault
  /-- The text of the path. -/
  path : String
  deriving Repr, DecidableEq

/-- The message of a fault with its number, and the path in quotes if there is one. -/
def systemMessage (number : Int) (text : String) (path : Option String) : String :=
  "[Errno " ++ toString number ++ "] " ++ text ++
    (match path with
    | some path => ": " ++ Text.quoted path
    | none => "")

/-- The message for a failed operation. It names the path unless the file was open already. -/
def FileError.message (e : FileError) : String :=
  if e.fault = .embeddedNul then e.fault.text
  else systemMessage e.fault.number e.fault.text (if e.fault = .noSpace then none else some e.path)

namespace Disk

/-- A disk with room, on which paths lead from the top. -/
def ofNodes (nodes : List (Location × Node)) : Disk := { workDir := [], nodes := nodes }

/-- What lies at a location. -/
def at? (disk : Disk) (place : Location) : Option Node :=
  if place = [] then some .folder
  else (disk.nodes.find? fun entry => entry.1 = place).map (·.2)

/-- Put a node at a location in place of what is there. -/
def put (disk : Disk) (place : Location) (node : Node) : Disk :=
  { disk with nodes := disk.nodes.filter (fun entry => entry.1 ≠ place) ++ [(place, node)] }

/-- Leave nothing at a location. -/
def erase (disk : Disk) (place : Location) : Disk :=
  { disk with nodes := disk.nodes.filter fun entry => entry.1 ≠ place }

/-- Keep bytes in a file of some kind. A device keeps none. -/
def keep (disk : Disk) (place : Location) (kind : FileKind) (bytes : List UInt8) : Disk :=
  if kind.isRegular then disk.put place (.file bytes kind) else disk

/-- Whether there is room for bytes in a file of some kind. -/
def hasRoom (disk : Disk) (kind : FileKind) (bytes : List UInt8) : Bool :=
  bytes.isEmpty || (if kind.isRegular then !disk.full else kind ≠ .full)

/-- What a path leads to. -/
inductive Found where
  /-- A node. -/
  | node (place : Location) (node : Node)
  /-- Nothing, in a folder that is there. -/
  | gap (place : Location)
  deriving Repr, DecidableEq

/-- The most bytes of a name. -/
def longestName : Nat := 255

/-- The most bytes of a path. -/
def longestPath : Nat := 4095

/-- Follow names from a location. -/
def follow (disk : Disk) : Location → List String → Except FileFault Found
  | place, [] =>
    match disk.at? place with
    | some node => .ok (.node place node)
    | none => .error .notFound
  | place, name :: rest =>
    match disk.at? place with
    | some .folder =>
      if name = ".." then follow disk place.dropLast rest
      else if longestName < Utf8.byteLength name then .error .nameTooLong
      else
        match disk.at? (place ++ [name]), rest with
        | some _, rest => follow disk (place ++ [name]) rest
        | none, [] => .ok (.gap (place ++ [name]))
        | none, _ :: _ => .error .notFound
    | some (.file _ _) => .error .notFolder
    | none => .error .notFound

/-- Where the names of a path are followed from. -/
def origin (disk : Disk) (path : Path) : Location := if path.root = "" then disk.workDir else []

/-- Follow a path. -/
def find (disk : Disk) (path : Path) : Except FileFault Found :=
  let text := path.toText
  if text.toList.contains '\x00' then .error .embeddedNul
  else if longestPath < Utf8.byteLength text then .error .nameTooLong
  else disk.follow (disk.origin path) path.parts

/-- The names in a folder. -/
def namesIn (disk : Disk) (place : Location) : List String :=
  disk.nodes.filterMap fun entry =>
    match entry.1.getLast? with
    | some name => if entry.1 = place ++ [name] then some name else none
    | none => none

/-- Names in the order of their characters. -/
def sortNames (names : List String) : List String := names.mergeSort fun a b => a ≤ b

/-- The paths of all files below a location, sorted. -/
def filesBelow (disk : Disk) (base : Location) : List String :=
  sortNames (disk.nodes.filterMap fun entry =>
    if entry.2.isRegular && base.isPrefixOf entry.1 then
      some ("/".intercalate (entry.1.drop base.length))
    else none)

end Disk

end ContractBench
