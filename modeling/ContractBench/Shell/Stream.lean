import ContractBench.Shell.Process

/-! # Streams of processes

A stream is a number for an open file. Streams that are the same open file share its place: what is
read by one is not read again by another.
-/

namespace ContractBench.Shell

/-- Why the system refuses something. -/
inductive SystemFault where
  /-- An operation on a path fails. -/
  | file (fault : FileFault)
  /-- It is not allowed. -/
  | denied
  /-- A folder holds something. -/
  | notEmpty
  /-- A file is no program. -/
  | notProgram
  /-- A stream is not open, or not for this. -/
  | badStream
  /-- A device is not there. -/
  | noDevice
  /-- An argument does not fit. -/
  | invalid
  /-- Too many files lead to each other. -/
  | tooManyLinks
  deriving Repr, DecidableEq

/-- The number of a fault. -/
def SystemFault.number : SystemFault → Nat
  | .file fault => fault.number
  | .denied => 13
  | .notEmpty => 39
  | .notProgram => 8
  | .badStream => 9
  | .noDevice => 6
  | .invalid => 22
  | .tooManyLinks => 40

/-- The words for a fault. -/
def SystemFault.text : SystemFault → String
  | .file fault => fault.text
  | .denied => "Permission denied"
  | .notEmpty => "Directory not empty"
  | .notProgram => "Exec format error"
  | .badStream => "Bad file descriptor"
  | .noDevice => "No such device or address"
  | .invalid => "Invalid argument"
  | .tooManyLinks => "Too many levels of symbolic links"

/-- What lies on every host beside the files of its users. -/
inductive HostNode where
  /-- A folder. -/
  | folder
  /-- A file. -/
  | file
  /-- A program. -/
  | program
  /-- A device. -/
  | device
  deriving Repr, DecidableEq

/-- The folders of programs. -/
def programFolders : List String := ["/usr/bin", "/bin", "/usr/local/bin"]

/-- The programs of the host. -/
def programNames : List String :=
  ["sh", "dash", "env", "cat", "head", "tail", "wc", "sort", "uniq", "cut", "tr", "grep", "egrep",
   "fgrep", "sed", "awk", "mawk", "expr", "ls", "rm", "cp", "mv", "mkdir", "rmdir", "touch",
   "chmod", "tee", "seq", "basename", "dirname", "printenv", "xargs", "rev", "tac", "nl", "paste",
   "yes", "sleep", "true", "false", "test", "[", "printf", "echo", "mktemp", "pwd", "kill", "find",
   "id", "whoami", "uname", "ln", "readlink", "realpath", "od", "base64", "fold", "comm", "cmp",
   "diff", "nohup", "timeout", "nice", "date", "stat", "md5sum", "sha256sum", "sha1sum", "cksum",
   "expand", "join", "split", "shuf", "factor", "dd", "truncate", "hostname", "nproc", "sync",
   "tty", "unlink", "link", "install", "which", "bash", "getopt", "setsid", "tsort", "unexpand",
   "fmt", "pr", "ptx", "csplit", "numfmt", "stdbuf", "sum", "sha512sum", "b2sum", "df", "du",
   "chown", "chgrp", "mkfifo", "mknod", "stty", "who", "users", "logname", "groups", "pathchk",
   "arch", "dircolors", "dir", "vdir", "locale", "perl", "tar", "gzip", "gunzip", "zcat", "ps",
   "mount", "more", "rgrep"]

/-- The folders of every host. -/
def hostFolders : List String :=
  ["/", "/bin", "/usr", "/usr/bin", "/usr/local", "/usr/local/bin", "/usr/local/sbin", "/etc",
   "/dev", "/home", "/root", "/var", "/proc", "/sys", "/opt", "/lib", "/sbin", "/usr/lib",
   "/usr/sbin", "/run", "/srv", "/mnt", "/media", "/dev/fd", "/usr/share", "/var/log", "/var/tmp"]

/-- The files of every host that are no programs. -/
def hostFiles : List String :=
  ["/etc/passwd", "/etc/group", "/etc/hosts", "/etc/hostname", "/etc/os-release",
   "/etc/resolv.conf", "/etc/fstab", "/etc/profile"]

/-- The devices of every host. -/
def hostDevices : List String :=
  ["/dev/null", "/dev/zero", "/dev/stdin", "/dev/stdout", "/dev/stderr", "/dev/tty",
   "/dev/random", "/dev/urandom", "/dev/full"]

/-- What lies at a path from the top of every host. -/
def hostNode? (parts : List String) : Option HostNode :=
  let path := "/" ++ "/".intercalate parts
  if hostFolders.contains path then some .folder
  else if hostFiles.contains path then some .file
  else if hostDevices.contains path then some .device
  else
    match parts with
    | ["bin", name] => if programNames.contains name then some .program else none
    | ["usr", "bin", name] => if programNames.contains name then some .program else none
    | _ => none

/-- Follow names on the host from a folder. -/
def hostFollow (place : List String) : List String → Except FileFault HostNode
  | [] => match hostNode? place with
    | some node => .ok node
    | none => .error .notFound
  | name :: rest =>
    match hostNode? place with
    | some .folder =>
      if name = ".." then hostFollow place.dropLast rest
      else if Disk.longestName < Utf8.byteLength name then .error .nameTooLong
      else hostFollow (place ++ [name]) rest
    | some _ => .error .notFolder
    | none => .error .notFound

/-- What a path leads to. -/
inductive Reached where
  /-- A node of the disk. -/
  | node (place : Location) (node : Node)
  /-- What lies on every host. -/
  | host (node : HostNode)
  /-- Nothing, in a folder of the disk. -/
  | gap (place : Location)
  deriving Repr, DecidableEq

namespace Act

/-- Follow a path, given in octets. Where the disk has nothing, the host may have something. -/
def reach (path : String) : Act (Except FileFault Reached) := do
  let text := Octets.toText path
  if text = "" then return .error .notFound
  else
    let route := Path.ofText text
    let isRooted := route.root ≠ ""
    let endsOpen := text.endsWith "/"
    let host : Except FileFault Reached :=
      match if isRooted then hostFollow [] route.parts else .error .notFound with
      | .ok .folder => .ok (.host .folder)
      | .ok node => if endsOpen then .error .notFolder else .ok (.host node)
      | .error fault => .error fault
    match (← disk).find route with
    | .ok (.node place (.file bytes kind)) =>
      return if endsOpen then .error .notFolder
        else if kind.isRegular then .ok (.node place (.file bytes kind))
        else .ok (.host .device)
    | .ok (.node place .folder) => return .ok (.node place .folder)
    | .ok (.gap place) =>
      return match host with
        | .ok reached => .ok reached
        | .error _ => if endsOpen then .error .notFound else .ok (.gap place)
    | .error .notFound => return host
    | .error fault => return .error fault

/-- Put a file in the table of open files. -/
def addFile (file : OpenFile) : Act Nat := do
  let index := (← machine).files.size
  setMachine fun machine => { machine with files := machine.files.push file }
  return index

/-- The open file that a stream is. -/
def stream? (stream : Nat) : Act (Option (Nat × OpenFile)) := do
  match (← process).streams.find? fun entry => entry.1 = stream with
  | some (_, index) => return ((← machine).files[index]?).map fun file => (index, file)
  | none => return none

/-- Make a stream an open file. -/
def setStream (stream index : Nat) : Act Unit :=
  setProcess fun process =>
    { process with streams :=
        (stream, index) :: process.streams.filter fun entry => entry.1 ≠ stream }

/-- Close a stream. -/
def closeStream (stream : Nat) : Act Unit :=
  setProcess fun process =>
    { process with streams := process.streams.filter fun entry => entry.1 ≠ stream }

/-- Change an open file. -/
def setChannel (index : Nat) (channel : Channel) : Act Unit :=
  setMachine fun machine =>
    { machine with files := machine.files.modify index fun file =>
        { file with channel := channel } }

/-- The bytes of a file of the disk. -/
def bytesAt (place : Location) : Act (List UInt8) := do
  match (← disk).at? place with
  | some (.file bytes _) => return bytes
  | _ => return []

/-- Put bytes in place of those of a file of the disk. -/
def putBytes (place : Location) (bytes : List UInt8) : Act Unit :=
  setDisk fun disk =>
    match disk.at? place with
    | some (.file _ kind) => disk.put place (.file bytes kind)
    | _ => disk

/-- Some content after other content is written over it from an offset on; a gap is filled with the
    character zero. -/
def overwrite {α : Type} (zero : α) (content : List α) (offset : Nat) (new : List α) : List α :=
  content.take offset ++ List.replicate (offset - content.length) zero ++ new ++
    content.drop (offset + new.length)

/-- Write to a stream. The flag tells whether it can be written. -/
def write (stream : Nat) (text : String) : Act Bool := do
  match ← stream? stream with
  | none => return false
  | some (index, file) =>
    if !file.writable then return false
    else
      match file.channel with
      | .nothing => return true
      | .folder => return false
      | .buffer written unread =>
        setChannel index (.buffer (text :: written) unread)
        return true
      | .file place offset atEnd =>
        let old ← bytesAt place
        let new := Octets.toBytes text.toList
        if atEnd then putBytes place (old ++ new)
        else
          putBytes place (overwrite 0 old offset new)
          setChannel index (.file place (offset + new.length) false)
        return true
      | .orphan content offset =>
        setChannel index
          (.orphan (overwrite '\x00' content offset text.toList) (offset + text.length))
        return true

/-- Write to the output, whether or not it can be written. -/
def print (text : String) : Act Unit := do
  let _ ← write 1 text

/-- Complain on a line of its own. -/
def complain (words : String) : Act Unit := do
  let _ ← write 2 (words ++ "\n")

/-- Complain in the name of the shell, and of the utility that runs. -/
def grumble (words : String) : Act Unit := do
  let process ← process
  let utility := match process.utility with
    | some name => name ++ ": "
    | none => ""
  complain (process.name ++ ": " ++ toString process.line ++ ": " ++ utility ++ words)

/-- Complain and fail. -/
def fault {α : Type} (words : String) : Act α := do
  grumble words
  leave 2
  throw .fault

/-- What an open file still gives. -/
def unreadOf (index : Nat) : Act (Except SystemFault (List Char)) := do
  match (← machine).files[index]? with
  | none => return .error .badStream
  | some file =>
    if !file.readable then return .error .badStream
    else
      match file.channel with
      | .nothing => return .ok []
      | .folder => return .error (.file .isFolder)
      | .buffer [] unread => return .ok unread
      | .buffer written unread =>
        let all := unread ++ (String.join written.reverse).toList
        setChannel index (.buffer [] all)
        return .ok all
      | .file place offset _ => return .ok (Octets.ofBytes ((← bytesAt place).drop offset))
      | .orphan content offset => return .ok (content.drop offset)

/-- What a stream still gives, with the open file that it is. -/
def unread (stream : Nat) : Act (Except SystemFault (Nat × List Char)) := do
  match ← stream? stream with
  | none => return .error .badStream
  | some (index, _) => return (← unreadOf index).map fun text => (index, text)

/-- Pass over some of what an open file still gives. -/
def pass (index count : Nat) : Act Unit := do
  let channel : Option Channel := ((← machine).files[index]?).map (·.channel)
  match channel with
  | some (.buffer written unread) => setChannel index (.buffer written (unread.drop count))
  | some (.file place offset atEnd) => setChannel index (.file place (offset + count) atEnd)
  | some (.orphan content offset) => setChannel index (.orphan content (offset + count))
  | _ => return

/-- Read all that a stream gives. -/
def readAll (stream : Nat) : Act (Except SystemFault (List Char)) := do
  match ← unread stream with
  | .error fault => return .error fault
  | .ok (index, text) =>
    pass index text.length
    return .ok text

/-- The devices that are streams of the process. -/
def streamDevice? (path : String) : Option Nat :=
  match path with
  | "/dev/stdin" => some 0
  | "/dev/stdout" => some 1
  | "/dev/stderr" => some 2
  | path =>
    let digits (start : String) : Option Nat :=
      if path.startsWith start then
        (String.ofList (path.toList.drop start.length)).toNat?
      else none
    (digits "/dev/fd/").or (digits "/proc/self/fd/")

/-- Open a file of the disk or the host. -/
def openPath (path : String) (opening : Opening) : Act (Except SystemFault Nat) := do
  let writes := opening ≠ .reading
  let reads := opening = .reading || opening = .both
  let addNew (channel : Channel) : Act (Except SystemFault Nat) := do
    return .ok (← addFile ⟨channel, reads, writes⟩)
  let keeps := opening = .writing false && (← hasOption 'C')
  match streamDevice? path with
  | some stream =>
    match ← stream? stream with
    | some (index, _) => return .ok index
    | none => return .error (.file .notFound)
  | none =>
    match ← reach path with
    | .error fault => return .error (.file fault)
    | .ok (.host .device) =>
      if path = "/dev/tty" then return .error .noDevice
      else if path = "/dev/zero" && reads then
        addNew (.buffer [] (List.replicate 65536 '\x00'))
      else addNew .nothing
    | .ok (.host .folder) => if writes then return .error (.file .isFolder) else addNew .folder
    | .ok (.host _) => if writes then return .error .denied else addNew .nothing
    | .ok (.node _ .folder) => if writes then return .error (.file .isFolder) else addNew .folder
    | .ok (.node place (.file _ _)) =>
      if keeps then return .error (.file .exists)
      else
        match opening with
        | .writing _ => putBytes place []
        | _ => pure ()
        addNew (.file place 0 (opening = .appending))
    | .ok (.gap place) =>
      if opening = .reading then return .error (.file .notFound)
      else
        setDisk fun disk => disk.put place (.file [] .plain)
        addNew (.file place 0 (opening = .appending))

/-- Let the open files that are a file of the disk go on without it. -/
def orphanFiles (place : Location) : Act Unit := do
  let content := Octets.ofBytes (← bytesAt place)
  setMachine fun machine =>
    { machine with files := machine.files.map fun file =>
        match file.channel with
        | .file other offset _ =>
          if other = place then { file with channel := .orphan content offset } else file
        | _ => file }

/-- Remove a file from the disk. -/
def removeFile (place : Location) : Act Unit := do
  orphanFiles place
  setDisk fun disk => disk.erase place

/-- Move what lies at a location, and all that lies below it. -/
def moveNode (source target : Location) : Act Unit := do
  let moved (place : Location) : Location :=
    if source.isPrefixOf place then target ++ place.drop source.length else place
  orphanFiles target
  setDisk fun disk =>
    let disk := disk.erase target
    { disk with nodes := disk.nodes.map fun (place, node) => (moved place, node) }
  setMachine fun machine =>
    { machine with files := machine.files.map fun file =>
        match file.channel with
        | .file place offset atEnd => { file with channel := .file (moved place) offset atEnd }
        | _ => file }

end Act

end ContractBench.Shell
