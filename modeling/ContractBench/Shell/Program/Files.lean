import ContractBench.Shell.Expansion
import ContractBench.Shell.Program.Calculation

/-! # Programs that change the disk

Programs that list, make, copy, move and remove files and folders. Each goes through its arguments
in order; what it did before it fails on one of them stays done.
-/

namespace ContractBench.Shell.Program

/-- The path of a name in a folder. -/
def within (folder name : String) : String :=
  if folder.endsWith "/" then folder ++ name else folder ++ "/" ++ name

/-- Do something for each of some items; the exit code is the greatest. -/
def forEach {α : Type} (items : List α) (action : α → Act Nat) : Act Nat := do
  let results ← items.mapM action
  return results.foldl max 0

/-- What a path leads to, where nothing is a fault. -/
def found? (path : String) : Act (Except SystemFault Reached) := do
  match ← Act.reach path with
  | .error fault => return .error (.file fault)
  | .ok (.gap _) => return .error (.file .notFound)
  | .ok reached => return .ok reached

/-- How entries of folders are listed. -/
structure Listing where
  /-- Whether names that begin with a dot are listed. -/
  hidden : Bool
  /-- Whether the folder itself and the one above are listed. -/
  own : Bool
  /-- The order turned around. -/
  reversed : Bool
  /-- The sign behind the names of folders and programs. -/
  mark : Reached → String
  /-- Whether folders below are listed too. -/
  recursive : Bool

/-- The sign behind the name of what lies at a path. -/
def kindMark (folders programs : Bool) : Reached → String
  | .node _ .folder => if folders then "/" else ""
  | .host .folder => if folders then "/" else ""
  | .node _ (.file _ kind) => if programs && kind.isProgram then "*" else ""
  | .host .program => if programs then "*" else ""
  | _ => ""

/-- The entries of a folder in order. -/
def Listing.names (listing : Listing) (path : String) : Act (List String) := do
  let names := (← namesIn path).filter fun name => listing.hidden || !name.startsWith "."
  let sorted := Disk.sortNames ((if listing.own then [".", ".."] else []) ++ names)
  return if listing.reversed then sorted.reverse else sorted

/-- A line for what lies at a path. -/
def Listing.line (listing : Listing) (path name : String) : Act String := do
  match ← Act.reach path with
  | .ok reached => return name ++ listing.mark reached ++ "\n"
  | .error _ => return name ++ "\n"

/-- List a folder, and those below it if this is asked for. The fuel is more than the depth of the
    disk. -/
def Listing.folder (listing : Listing) : Nat → Bool → String → Act Unit
  | 0, _, _ => return
  | fuel + 1, titled, path => do
    if titled then Act.print (path ++ ":\n")
    let names ← listing.names path
    let lines ← names.mapM fun name => listing.line (within path name) name
    Act.print (String.join lines)
    if listing.recursive then
      (names.filter fun name => name ≠ "." && name ≠ "..").forM fun name => do
        if ← isFolder (within path name) then
          Act.print "\n"
          Listing.folder listing fuel true (within path name)

/-- List files and folders. -/
def ls : Program := fun _ name args =>
  withOptions { flags := "1aAdFprRlhtSsiUGcukogqQbmxCLHnNfvX", long := [("all", 'a'),
    ("almost-all", 'A'), ("directory", 'd'), ("classify", 'F'), ("reverse", 'r'),
    ("recursive", 'R'), ("color", 'G')] } name args 2 fun parsed => do
    let listing : Listing :=
      { hidden := parsed.has 'a' || parsed.has 'A'
        own := parsed.has 'a'
        reversed := parsed.has 'r'
        mark := kindMark (parsed.has 'F' || parsed.has 'p') (parsed.has 'F')
        recursive := parsed.has 'R' }
    let order (names : List String) : List String :=
      let sorted := Disk.sortNames names
      if listing.reversed then sorted.reverse else sorted
    let paths := if parsed.operands.isEmpty then ["."] else order parsed.operands
    let present ← paths.filterM fun path => do
      match ← found? path with
      | .ok _ => return true
      | .error fault =>
        complain name ("cannot access " ++ quoted path ++ ": " ++ fault.text)
        return false
    let folders ← if parsed.has 'd' then pure [] else present.filterM isFolder
    let files := present.filter (!folders.contains ·)
    let lines ← files.mapM fun path => listing.line path path
    Act.print (String.join lines)
    let titled := 1 < paths.length || listing.recursive
    folders.zipIdx.forM fun (path, index) => do
      if 0 < index || !files.isEmpty then Act.print "\n"
      listing.folder 64 titled path
    return if present.length < paths.length then 2 else 0

/-- Remove what lies at a location, and all that lies below it. -/
def removeBelow (place : Location) : Act Unit := do
  let below := ((← Act.disk).nodes.map (·.1)).filter place.isPrefixOf
  below.forM Act.removeFile

/-- Remove files and folders. -/
def rm : Program := fun _ name args =>
  withOptions { flags := "frRivdI", long := [("force", 'f'), ("recursive", 'r'),
    ("verbose", 'v'), ("dir", 'd')] } name args 1 fun parsed => do
    let force := parsed.has 'f'
    if parsed.operands.isEmpty then
      return ← if force then pure 0 else missingOperand name 1
    forEach parsed.operands fun path => do
      let refused (fault : SystemFault) : Act Nat :=
        refuse name ("cannot remove " ++ quoted path ++ ": " ++ fault.text) 1
      let last := lastName path
      let recursive := parsed.has 'r' || parsed.has 'R'
      if recursive && (last = "." || last = "..") then
        refuse name ("refusing to remove '.' or '..' directory: skipping " ++ quoted path) 1
      else
        match ← found? path with
        | .error (.file .notFound) => if force then return 0 else refused (.file .notFound)
        | .error (.file .notFolder) => if force then return 0 else refused (.file .notFolder)
        | .error fault => refused fault
        | .ok (.node place .folder) =>
          if recursive then
            removeBelow place
            if parsed.has 'v' then Act.print ("removed directory " ++ quoted path ++ "\n")
            return 0
          else if !parsed.has 'd' then refused (.file .isFolder)
          else if ((← Act.disk).namesIn place).isEmpty then
            Act.removeFile place
            return 0
          else refused .notEmpty
        | .ok (.node place _) =>
          Act.removeFile place
          if parsed.has 'v' then Act.print ("removed " ++ quoted path ++ "\n")
          return 0
        | .ok _ => refused .denied

/-- Remove folders that are empty. -/
def rmdir : Program := fun _ name args =>
  withOptions { flags := "pv", long := [("parents", 'p')] } name args 1 fun parsed => do
    let removeOne (path : String) : Act Nat := do
      let refused (fault : SystemFault) : Act Nat :=
        refuse name ("failed to remove " ++ quoted path ++ ": " ++ fault.text) 1
      match ← found? path with
      | .error fault => refused fault
      | .ok (.node place .folder) =>
        if lastName path = "." then refused .invalid
        else if ((← Act.disk).namesIn place).isEmpty then
          Act.removeFile place
          return 0
        else refused .notEmpty
      | .ok (.host .folder) => refused .notEmpty
      | .ok _ => refused (.file .notFolder)
    let rec upward : Nat → String → Act Nat
      | 0, _ => return 0
      | fuel + 1, path => do
        let status ← removeOne path
        if status = 0 && parsed.has 'p' && (withoutSlashes path).toList.contains '/' then
          upward fuel (parentPath path)
        else return status
    if parsed.operands.isEmpty then missingOperand name 1
    else forEach parsed.operands fun path => upward (path.length + 1) path

/-- The paths of a path and of the folders on the way, the outermost first. -/
def pathsToward (path : String) : List String :=
  let names := Path.namesIn path
  let root := if path.startsWith "/" then "/" else ""
  (List.range names.length).map fun n => root ++ "/".intercalate (names.take (n + 1))

/-- Make folders. -/
def mkdir : Program := fun _ name args =>
  withOptions { flags := "pv", valued := "m", long := [("parents", 'p'), ("mode", 'm'),
    ("verbose", 'v')] } name args 1 fun parsed => do
    let makeOne (lenient : Bool) (path : String) : Act Nat := do
      let refused (fault : SystemFault) : Act Nat :=
        refuse name ("cannot create directory " ++ curled path ++ ": " ++ fault.text) 1
      match ← Act.reach (withoutSlashes path) with
      | .ok (.gap place) =>
        Act.setDisk fun disk => disk.put place .folder
        if parsed.has 'v' then Act.print ("mkdir: created directory " ++ quoted path ++ "\n")
        return 0
      | .ok (.node _ .folder) => if lenient then return 0 else refused (.file .exists)
      | .ok (.host .folder) => if lenient then return 0 else refused (.file .exists)
      | .ok _ => refused (.file (if lenient then .notFolder else .exists))
      | .error fault => refused (.file fault)
    if parsed.operands.isEmpty then missingOperand name 1
    else
      forEach parsed.operands fun path => do
        if parsed.has 'p' then
          let rec go : List String → Act Nat
            | [] => return 0
            | step :: rest => do
              let status ← makeOne true step
              if status = 0 then go rest else return status
          go (pathsToward path)
        else makeOne false path

/-- Make files that are not there. -/
def touch : Program := fun _ name args =>
  withOptions { flags := "camfh", valued := "tdr", long := [("no-create", 'c'), ("date", 'd'),
    ("reference", 'r')] } name args 1 fun parsed => do
    if parsed.operands.isEmpty then misuse name "missing file operand" 1
    else
      forEach parsed.operands fun path => do
        match ← Act.reach path with
        | .ok (.gap place) =>
          if !parsed.has 'c' then Act.setDisk fun disk => disk.put place (.file [] .plain)
          return 0
        | .ok _ => return 0
        | .error fault =>
          if parsed.has 'c' && fault = .notFound then return 0
          else if fault = .notFound || fault = .notFolder then
            refuse name ("cannot touch " ++ quoted path ++ ": " ++ fault.text) 1
          else refuse name ("setting times of " ++ quoted path ++ ": " ++ fault.text) 1

/-- Whether a file can be run after its permissions are changed, given whether it can be now; or
    nothing if the change has no meaning. -/
def changedMode? (runnable : Bool) (mode : String) : Option Bool :=
  if !mode.isEmpty && mode.toList.all Format.isOctal then
    let bits := (Format.splitNumber 8 mode.length 0 mode.toList).1
    some (bits % 2 = 1 || bits / 8 % 2 = 1 || bits / 64 % 2 = 1)
  else
    ((mode.split (· = ',')).toList.map (·.toString)).foldl (fun now? clause => do
      let now ← now?
      let who := clause.toList.takeWhile "ugoa".toList.contains
      match clause.toList.drop who.length with
      | sign :: letters =>
        let whole := who.isEmpty || who.contains 'a' || who.contains 'u'
        if !letters.all "rwxXst".toList.contains then none
        else
          let runs := letters.contains 'x' || (letters.contains 'X' && now)
          match sign with
          | '+' => some (now || runs)
          | '-' => some (now && !(runs && whole))
          | '=' => some (if whole then runs else now || runs)
          | _ => none
      | [] => none) (some runnable)

/-- Change who may do what with files. -/
def chmod : Program := fun _ name args => do
  let isMode (arg : String) : Bool :=
    match arg.toList with
    | '-' :: c :: _ => "rwxXst".toList.contains c
    | _ => false
  let flags := args.filter fun arg => arg.startsWith "-" && !isMode arg
  let others := args.filter fun arg => !arg.startsWith "-" || isMode arg
  withOptions { flags := "Rvcf", long := [("recursive", 'R')] } name flags 1 fun parsed => do
    match others with
    | [] => missingOperand name 1
    | [mode] => misuse name ("missing operand after " ++ curled mode) 1
    | mode :: paths =>
      if (changedMode? false mode).isNone then
        misuse name ("invalid mode: " ++ curled mode) 1
      else
        forEach paths fun path => do
          match ← found? path with
          | .error fault =>
            refuse name ("cannot access " ++ quoted path ++ ": " ++ fault.text) 1
          | .ok (.node place node) =>
            let change (place : Location) (node : Node) : Act Unit :=
              match node with
              | .file bytes kind =>
                let runnable := (changedMode? kind.isProgram mode).getD kind.isProgram
                Act.setDisk fun disk =>
                  disk.put place (.file bytes (if runnable then .program else .plain))
              | .folder => return
            change place node
            if parsed.has 'R' then
              ((← Act.disk).nodes.filter fun entry => place.isPrefixOf entry.1).forM
                fun (place, node) => change place node
            return 0
          | .ok _ => return 0

/-- Where a file goes that is copied or moved to a path: into the folder there, or to the path. -/
def destination (target source : String) : Act String := do
  if ← isFolder target then return within target (lastName source) else return target

/-- The location at which a node can be put, if the system allows it. -/
def landing (path : String) : Act (Except SystemFault Location) := do
  match ← Act.reach (withoutSlashes path) with
  | .ok (.node place _) => return .ok place
  | .ok (.gap place) => return .ok place
  | .ok (.host .device) => return .error .noDevice
  | .ok (.host _) => return .error .denied
  | .error fault => return .error (.file fault)

/-- Copy a node and all that lies below it to a location. -/
def copyTree (source target : Location) : Act Unit := do
  let nodes := (← Act.disk).nodes.filter fun entry => source.isPrefixOf entry.1
  nodes.forM fun (place, node) => do
    let place := target ++ place.drop source.length
    match node, (← Act.disk).at? place with
    | .file bytes _, some (.file _ _) => Act.putBytes place bytes
    | .folder, some _ => return
    | node, _ => Act.setDisk fun disk => disk.put place node

/-- Go on with the sources and the target among some operands, or refuse them. -/
def withTarget (name : String) (operands : List String) (code : Nat)
    (body : List String → String → Act Nat) : Act Nat := do
  match operands with
  | [] => misuse name "missing file operand" code
  | [single] => misuse name ("missing destination file operand after " ++ quoted single) code
  | operands =>
    let target := operands.getLastD ""
    let sources := operands.dropLast
    if 1 < sources.length && !(← isFolder target) then
      let fault : SystemFault := match ← found? target with
        | .error fault => fault
        | .ok _ => .file .notFolder
      refuse name ("target " ++ quoted target ++ ": " ++ fault.text) code
    else body sources target

/-- Copy files and folders. -/
def cp : Program := fun _ name args =>
  withOptions { flags := "rRafpvnidLPHuTl", long := [("recursive", 'r'), ("archive", 'a'),
    ("force", 'f'), ("verbose", 'v'), ("no-clobber", 'n')] } name args 1 fun parsed =>
    withTarget name parsed.operands 1 fun sources target =>
      forEach sources fun source => do
        match ← found? source with
        | .error fault => refuse name ("cannot stat " ++ quoted source ++ ": " ++ fault.text) 1
        | .ok reached =>
          let recursive := parsed.has 'r' || parsed.has 'R' || parsed.has 'a'
          let goal ← destination target source
          let refused (fault : SystemFault) : Act Nat :=
            refuse name ("cannot create regular file " ++ quoted goal ++ ": " ++ fault.text) 1
          match reached, ← landing goal with
          | .node place node, .ok goalPlace =>
            if place = goalPlace then
              refuse name (quoted source ++ " and " ++ quoted goal ++ " are the same file") 1
            else
              match node, (← Act.disk).at? goalPlace with
              | .folder, present =>
                if !recursive then
                  refuse name ("-r not specified; omitting directory " ++ quoted source) 1
                else
                  match present with
                  | some (.file _ _) =>
                    refuse name ("cannot overwrite non-directory " ++ quoted goal ++
                      " with directory " ++ quoted source) 1
                  | _ =>
                    copyTree place goalPlace
                    return 0
              | .file _ _, some .folder =>
                refuse name ("cannot overwrite directory " ++ quoted goal ++
                  " with non-directory") 1
              | .file _ _, present =>
                if goal.endsWith "/" then refused (.file .notFolder)
                else
                  if !(parsed.has 'n' && present.isSome) then
                    copyTree place goalPlace
                    if parsed.has 'v' then
                      Act.print (quoted source ++ " -> " ++ quoted goal ++ "\n")
                  return 0
          | .host .device, .ok goalPlace =>
            Act.setDisk fun disk => disk.put goalPlace (.file [] .plain)
            return 0
          | .host .folder, _ =>
            refuse name ("-r not specified; omitting directory " ++ quoted source) 1
          | .host _, .ok goalPlace =>
            Act.setDisk fun disk => disk.put goalPlace (.file [] .program)
            return 0
          | .node _ _, .error .noDevice => return 0
          | _, .error fault => refused fault
          | .gap _, _ => return 0

/-- Move files and folders. -/
def mv : Program := fun _ name args =>
  withOptions { flags := "fvniuT", long := [("force", 'f'), ("verbose", 'v'),
    ("no-clobber", 'n')] } name args 1 fun parsed =>
    withTarget name parsed.operands 1 fun sources target =>
      forEach sources fun source => do
        match ← found? source with
        | .error fault => refuse name ("cannot stat " ++ quoted source ++ ": " ++ fault.text) 1
        | .ok (.node place node) =>
          let goal ← destination target source
          let refused (fault : SystemFault) : Act Nat :=
            refuse name ("cannot move " ++ quoted source ++ " to " ++ quoted goal ++ ": " ++
              fault.text) 1
          match ← landing goal with
          | .error fault => refused fault
          | .ok goalPlace =>
            if place = goalPlace then
              refuse name (quoted source ++ " and " ++ quoted goal ++ " are the same file") 1
            else if place.isPrefixOf goalPlace then
              refuse name ("cannot move " ++ quoted source ++ " to a subdirectory of itself, " ++
                quoted goal) 1
            else
              match node, (← Act.disk).at? goalPlace with
              | .folder, some (.file _ _) =>
                refuse name ("cannot overwrite non-directory " ++ quoted goal ++
                  " with directory " ++ quoted source) 1
              | .file _ _, some .folder =>
                refuse name ("cannot overwrite directory " ++ quoted goal ++
                  " with non-directory") 1
              | .folder, some .folder =>
                if ((← Act.disk).namesIn goalPlace).isEmpty then
                  Act.moveNode place goalPlace
                  return 0
                else refused .notEmpty
              | node, present =>
                if goal.endsWith "/" && node ≠ .folder then refused (.file .notFolder)
                else
                  if !(parsed.has 'n' && present.isSome) then
                    Act.moveNode place goalPlace
                    if parsed.has 'v' then
                      Act.print ("renamed " ++ quoted source ++ " -> " ++ quoted goal ++ "\n")
                  return 0
        | .ok _ =>
          refuse name ("cannot move " ++ quoted source ++ ": " ++ SystemFault.denied.text) 1

/-- Give a file another name besides; what is behind the names may part later. -/
def ln : Program := fun _ name args =>
  withOptions { flags := "sfvnT", long := [("symbolic", 's'), ("force", 'f')] } name args 1
    fun parsed => do
      let operands := match parsed.operands with
        | [single] => [single, "."]
        | operands => operands
      withTarget name operands 1 fun sources target =>
        forEach sources fun source => do
          let goal ← destination target source
          let kind := if parsed.has 's' then "symbolic link " else "hard link "
          match ← Act.reach goal, ← found? source with
          | .ok (.node place _), .ok (.node from_ _) =>
            if parsed.has 'f' then
              if place ≠ from_ then
                Act.removeFile place
                copyTree from_ place
              return 0
            else
              refuse name ("failed to create " ++ kind ++ quoted goal ++ ": " ++
                (SystemFault.file .exists).text) 1
          | .ok (.gap place), .ok (.node from_ _) =>
            copyTree from_ place
            return 0
          | _, .error fault =>
            if parsed.has 's' then return 0
            else refuse name ("failed to access " ++ quoted source ++ ": " ++ fault.text) 1
          | .error fault, _ =>
            refuse name ("failed to create " ++ kind ++ quoted goal ++ ": " ++ fault.text) 1
          | _, _ => return 0

/-- The folder in which files are made that are soon removed. -/
def scratchFolder : String := "/tmp"

/-- Make a new file or folder and tell its path. -/
def mktemp : Program := fun _ name args =>
  withOptions { flags := "dqtu", valued := "p", long := [("directory", 'd'), ("tmpdir", 't')] }
    name args 1 fun parsed => do
      let form := parsed.operands.headD "tmp.XXXXXXXXXX"
      let inFolder := parsed.operands.isEmpty || parsed.has 't' || parsed.has 'p'
      let folder := (parsed.value? 'p').getD ((← Act.value? "TMPDIR").getD scratchFolder)
      let id := (← Act.machine).nextId
      Act.setMachine fun machine => { machine with nextId := id + 1 }
      let count := (form.toList.reverse.takeWhile (· = 'X')).length
      if count < 3 then refuse name ("too few X's in template " ++ curled form) 1
      else
        let own := String.ofList (form.toList.take (form.length - count)) ++
          Places.zeroPadded count (toString id)
        let path := if inFolder then within folder own else own
        match ← Act.reach path with
        | .ok (.gap place) =>
          let node : Node := if parsed.has 'd' then .folder else .file [] .plain
          if !parsed.has 'u' then Act.setDisk fun disk => disk.put place node
          Act.print (path ++ "\n")
          return 0
        | .error fault =>
          refuse name ("failed to create file via template " ++ curled path ++ ": " ++
            fault.text) 1
        | .ok _ =>
          refuse name ("failed to create file via template " ++ curled path ++ ": " ++
            (SystemFault.file .exists).text) 1

/-- The path of a location from the top. -/
def rootedPath (place : Location) : String := "/" ++ "/".intercalate (place.map Octets.ofText)

/-- Tell the paths from the top of what some paths lead to. -/
def realpath : Program := fun _ name args =>
  withOptions { flags := "efmqsn" } name args 1 fun parsed => do
    if parsed.operands.isEmpty then missingOperand name 1
    else
      forEach parsed.operands fun path => do
        match ← Act.reach path with
        | .ok (.node place _) =>
          Act.print (rootedPath place ++ "\n")
          return 0
        | .ok (.gap place) =>
          if parsed.has 'e' then
            refuse name (shown path ++ ": " ++ (SystemFault.file .notFound).text) 1
          else
            Act.print (rootedPath place ++ "\n")
            return 0
        | .ok (.host _) =>
          Act.print (path ++ "\n")
          return 0
        | .error fault => refuse name (shown path ++ ": " ++ fault.text) 1

/-- Tell the folder that the process is in. -/
def pwd : Program := fun _ _ _ => do
  Act.print ("/" ++ "/".intercalate ((← Act.disk).workDir.map Octets.ofText) ++ "\n")
  return 0

end ContractBench.Shell.Program
