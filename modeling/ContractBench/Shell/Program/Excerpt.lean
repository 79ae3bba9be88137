import ContractBench.Shell.Program

/-! # Programs that show files

Programs that write what they read, whole or in part, as it is or with marks.
-/

namespace ContractBench.Shell.Program

/-- The lines of a text with their newlines; the last may have none. -/
def fullLines (text : List Char) : List String :=
  let lines := linesOf text
  let ended := lines.map fun line => line ++ "\n"
  if text.getLast? = some '\n' || lines.isEmpty then ended
  else ended.dropLast ++ [lines.getLastD ""]

/-- A text on the right of a place with some width. -/
def flushRight (width : Nat) (text : String) : String :=
  String.ofList (List.replicate (width - text.length) ' ') ++ text

/-- A text on the left of a place with some width. -/
def flushLeft (width : Nat) (text : String) : String :=
  text ++ String.ofList (List.replicate (width - text.length) ' ')

/-- A character as signs that can be seen; newlines and tabs stay. -/
def visible (c : Char) : String :=
  let plain (n : Nat) : String :=
    if n < 32 then "^" ++ String.singleton (Char.ofNat (n + 64))
    else if n = 127 then "^?"
    else String.singleton (Char.ofNat n)
  if c = '\n' || c = '\t' then String.singleton c
  else if c.toNat < 128 then plain c.toNat
  else "M-" ++ plain (c.toNat - 128)

/-- Runs of empty lines as one. -/
def squeezed : List String → List String
  | "\n" :: "\n" :: rest => squeezed ("\n" :: rest)
  | line :: rest => line :: squeezed rest
  | [] => []

/-- Lines with their numbers, or with numbers for those that are not empty. -/
def numbered (all : Bool) : Nat → List String → List String
  | _, [] => []
  | n, line :: rest =>
    if all || line ≠ "\n" then
      (flushRight 6 (toString n) ++ "\t" ++ line) :: numbered all (n + 1) rest
    else line :: numbered all n rest

/-- Show files one behind the other. -/
def cat : Program := fun _ name args =>
  withOptions { flags := "nbsETvAetu", long := [("number", 'n'), ("number-nonblank", 'b'),
    ("squeeze-blank", 's'), ("show-ends", 'E'), ("show-tabs", 'T'), ("show-nonprinting", 'v'),
    ("show-all", 'A')] } name args 1 fun parsed => do
    let (content, status) ← joinedInputs name parsed.operands
    if parsed.options.all fun entry => entry.1 = 'u' then Act.print (String.ofList content)
    else
      let has := parsed.has
      let sees := has 'v' || has 'A' || has 'e' || has 't'
      let lines := fullLines content
      let lines := if has 's' then squeezed lines else lines
      let marked (line : String) : String :=
        String.join (line.toList.map fun c =>
          if c = '\n' && (has 'E' || has 'A' || has 'e') then "$\n"
          else if c = '\t' && (has 'T' || has 'A' || has 't') then "^I"
          else if sees then visible c
          else String.singleton c)
      let lines := lines.map fun line => (line, marked line)
      let numbers := numbered (!has 'b') 1 (lines.map (·.1))
      let shown := (lines.zip numbers).map fun ((line, marked), number) =>
        String.ofList (number.toList.take (number.length - line.length)) ++ marked
      Act.print (String.join (if has 'n' || has 'b' then shown else lines.map (·.2)))
    return status

/-- Show files with their lines in reverse. -/
def tac : Program := fun _ name args =>
  withOptions {} name args 1 fun parsed => do
    let words (path : String) (fault : SystemFault) : String :=
      if fault = .file .isFolder then shown path ++ ": read error: " ++ fault.text
      else "failed to open " ++ quoted path ++ " for reading: " ++ fault.text
    let (found, status) ← inputsWith words name parsed.operands
    found.forM fun (_, content) => Act.print (String.join (fullLines content).reverse)
    return status

/-- A part of what is read: so many units from the start, or from the end. -/
structure Extent where
  /-- Whether octets are counted, and else lines. -/
  octets : Bool := false
  /-- The number of units. -/
  count : Nat := 10
  /-- Whether so many units are left out, and else kept. -/
  without : Bool := false

/-- The factor that a letter behind a number stands for. -/
def factor? (letters : String) : Option Nat :=
  match letters with
  | "" => some 1
  | "b" => some 512
  | "k" => some 1024
  | "K" => some 1024
  | "kB" => some 1000
  | "KB" => some 1000
  | "M" => some 1048576
  | "MB" => some 1000000
  | "G" => some 1073741824
  | _ => none

/-- The number that a text is, with a letter behind it. -/
def scaledNumber? (text : String) : Option Nat :=
  let digits := text.toList.takeWhile Char.isDigit
  if digits.isEmpty then none
  else (factor? (String.ofList (text.toList.drop digits.length))).map fun factor =>
    Numeral.ofDigits digits * factor

/-- The extent that the value of an option asks for; a sign in front turns it around. -/
def extent? (octets : Bool) (sign : Char) (value : String) : Option Extent :=
  match value.toList with
  | c :: rest =>
    let signed := c = '-' || c = '+'
    (scaledNumber? (if signed then String.ofList rest else value)).map fun n =>
      { octets := octets, count := n, without := c = sign }
  | [] => none

/-- The start of a text. -/
def Extent.start (extent : Extent) (text : List Char) : List Char :=
  let cut {α : Type} (units : List α) : List α :=
    units.take (if extent.without then units.length - extent.count else extent.count)
  if extent.octets then cut text
  else (String.join (cut (fullLines text))).toList

/-- The end of a text. -/
def Extent.end_ (extent : Extent) (text : List Char) : List Char :=
  let cut {α : Type} (units : List α) : List α :=
    units.drop (if extent.without then extent.count - 1 else units.length - extent.count)
  if extent.octets then cut text
  else (String.join (cut (fullLines text))).toList

/-- Arguments in which an old form of the number of lines is replaced by an option. -/
def modernArgs (signs : List Char) : List String → List String
  | [] => []
  | arg :: rest =>
    match arg.toList with
    | sign :: c :: digits =>
      if signs.contains sign && c.isDigit && digits.all fun d => d.isDigit || d = 'c' then
        let letter := if digits.contains 'c' then "-c" else "-n"
        let number := String.ofList ((c :: digits).filter Char.isDigit)
        (letter ++ (if sign = '+' then "+" else "") ++ number) :: rest
      else arg :: rest
    | _ => arg :: rest

/-- Show files under their names. -/
def showNamed (named : Bool) (found : List (String × List Char)) (part : List Char → List Char) :
    Act Unit := do
  let texts := found.map fun (path, content) =>
    let title := if path = "-" then "standard input" else path
    (if named then "==> " ++ title ++ " <==\n" else "") ++ String.ofList (part content)
  Act.print ((if named then "\n" else "").intercalate texts)

/-- The words for a file that cannot be opened or read. -/
def openingWords (path : String) (fault : SystemFault) : String :=
  if fault = .file .isFolder then "error reading " ++ quoted path ++ ": " ++ fault.text
  else "cannot open " ++ quoted path ++ " for reading: " ++ fault.text

/-- The options of programs that show the start or the end. -/
def extentOptions : Options :=
  { flags := "qvzfF", valued := "nc"
    long := [("lines", 'n'), ("bytes", 'c'), ("quiet", 'q'), ("silent", 'q'), ("verbose", 'v'),
      ("zero-terminated", 'z'), ("follow", 'f')] }

/-- The extent that options ask for, or the words to refuse them. -/
def extentOf (sign : Char) (parsed : Parsed) : Except String Extent :=
  match parsed.options.reverse.find? fun entry => entry.1 = 'n' || entry.1 = 'c' with
  | none => .ok {}
  | some (letter, value) =>
    match extent? (letter = 'c') sign value with
    | some extent => .ok extent
    | none =>
      .error ("invalid number of " ++ (if letter = 'c' then "bytes" else "lines") ++ ": " ++
        curled (if value.startsWith "-" then String.ofList (value.toList.drop 1) else value))

/-- Whether files are shown under their names. -/
def showsNames (parsed : Parsed) : Bool :=
  match parsed.options.reverse.find? fun entry => entry.1 = 'q' || entry.1 = 'v' with
  | some (letter, _) => letter = 'v'
  | none => 1 < parsed.operands.length

/-- Show the start of files. -/
def head : Program := fun _ name args =>
  withOptions extentOptions name (modernArgs ['-'] args) 1 fun parsed => do
    match extentOf '-' parsed with
    | .error words => refuse name words 1
    | .ok extent =>
      if parsed.operands.isEmpty || parsed.operands = ["-"] then
        match ← Act.unread 0 with
        | .error fault => refuse name (openingWords "-" fault) 1
        | .ok (index, content) =>
          let part := extent.start content
          let isFile := match ((← Act.machine).files[index]?).map (·.channel) with
            | some (.file _ _ _) => true
            | _ => false
          Act.pass index (if isFile then part.length else content.length)
          showNamed (showsNames parsed) [("-", content)] extent.start
          return 0
      else
        let (found, status) ← inputsWith openingWords name parsed.operands
        showNamed (showsNames parsed) found extent.start
        return status

/-- Show the end of files. -/
def tail : Program := fun _ name args =>
  withOptions extentOptions name (modernArgs ['-', '+'] args) 1 fun parsed => do
    match extentOf '+' parsed with
    | .error words => refuse name words 1
    | .ok extent =>
      let (found, status) ← inputsWith openingWords name parsed.operands
      showNamed (showsNames parsed) found extent.end_
      return status

/-- Write the input to files and the output. -/
def tee : Program := fun _ name args =>
  withOptions { flags := "ai", long := [("append", 'a'), ("ignore-interrupts", 'i')] } name args 1
    fun parsed => do
      let content := ((← Act.readAll 0).toOption).getD []
      let opening : Opening := if parsed.has 'a' then .appending else .writing true
      let text := String.ofList content
      let results ← parsed.operands.mapM fun path => do
        match ← Act.openPath path opening with
        | .error fault => refuse name (readingWords path fault) 1
        | .ok index =>
          Act.setStream 3 index
          let _ ← Act.write 3 text
          return 0
      Act.print text
      return results.foldl max 0

/-- The numbers of lines, words, characters, octets and of the characters of the longest line. -/
def counts (text : List Char) : List Nat :=
  let isBlank (c : Char) : Bool := c = ' ' || (9 ≤ c.toNat && c.toNat ≤ 13)
  let words := (text.foldl (fun (count, within) c =>
    if isBlank c then (count, false) else (if within then count else count + 1, true))
    (0, false)).1
  let characters := (Utf8.decodeLossy (Octets.toBytes text)).length
  let longest := (linesOf text).foldl (fun most line => max most (Octets.toText line).length) 0
  [text.countP (· = '\n'), words, characters, text.length, longest]

/-- Count what files hold. -/
def wc : Program := fun _ name args =>
  withOptions { flags := "lwmcL", long := [("lines", 'l'), ("words", 'w'), ("chars", 'm'),
    ("bytes", 'c'), ("max-line-length", 'L')] } name args 1 fun parsed => do
    let letters := if parsed.options.isEmpty then ['l', 'w', 'c'] else parsed.options.map (·.1)
    let wanted (row : List Nat) : List Nat :=
      ((['l', 'w', 'm', 'c', 'L'].zip row).filter fun entry => letters.contains entry.1).map (·.2)
    let paths := parsed.operands
    let (found, status) ← inputs name paths
    let fromFile ← match ← Act.stream? 0 with
      | some (_, ⟨.file _ _ _, _, _⟩) => pure true
      | _ => pure false
    let rows := found.map fun (path, content) => (path, wanted (counts content))
    let sizes := (found.map fun (_, content) => content.length).foldl (· + ·) 0
    let irregular := found.any fun (path, _) => path = "-" && !fromFile
    let single := paths.length ≤ 1 && (wanted [0, 0, 0, 0, 0]).length = 1
    let width :=
      if single then 1 else max (Nat.repr sizes).length (if irregular then 7 else 1)
    let line (row : List Nat) (path : String) : String :=
      " ".intercalate (row.map fun n => flushRight width (toString n)) ++
        (if path = "" then "" else " " ++ path) ++ "\n"
    Act.print (String.join (rows.map fun (path, row) =>
      line row (if paths.isEmpty then "" else path)))
    if 1 < paths.length then
      let sum (a b : List Nat) : List Nat := (a.zip b).map fun (x, y) => x + y
      let zero := wanted [0, 0, 0, 0, 0]
      Act.print (line ((rows.map (·.2)).foldl sum zero) "total")
    return status

end ContractBench.Shell.Program
