import ContractBench.Shell.Program.Lines
import ContractBench.Shell.Program.EditScript

/-! # Editing lines

A program that makes the edits of a script on each line of what it reads. What is worked on, the
pattern, begins as a line, and is written when all edits are made; another text is put aside.
-/

namespace ContractBench.Shell.Program

/-- Lines while they are edited. -/
structure Editor where
  /-- The edits. -/
  script : Array SelectedEdit
  /-- Whether lines are written only where an edit says so. -/
  quiet : Bool
  /-- The lines that are left, each with whether a newline ends it. -/
  rest : List (String × Bool)
  /-- The number of the line. -/
  number : Nat := 0
  /-- What is worked on. -/
  pattern : String := ""
  /-- Whether a newline ends the line. -/
  ended : Bool := true
  /-- What is put aside. -/
  hold : String := ""
  /-- What is written behind the line: texts, and files by their paths. -/
  queue : List (Except String String) := []
  /-- The ranges that have begun, by the places of their edits, with the numbers of their last
      lines where these are known. -/
  ranges : List (Nat × Option Nat) := []
  /-- Whether a match was replaced since the line was read. -/
  replaced : Bool := false
  /-- The expression that was used last. -/
  used : Option Regex := none
  /-- Whether what was written last lacks its newline. -/
  gap : Bool := false

/-- What comes after an edit. -/
inductive Onward where
  /-- The edit at a place. -/
  | to (place : Nat)
  /-- The end of the edits for this line. -/
  | finish
  /-- The next line, without a word on this one. -/
  | drop
  /-- The edits from the start, on what is left of the pattern. -/
  | restart
  /-- The end, with an exit code; the line may be left out. -/
  | quit (code : Nat) (silent : Bool)

/-- An edit at work. -/
abbrev Editing := StateT Editor Act

namespace Editing

/-- Write a text and a newline, unless it lacks one; a newline that lacks before is written. -/
def emit (text : String) (ended : Bool) : Editing Unit := do
  let editor ← get
  let lead := if editor.gap then "\n" else ""
  let _ ← (Act.print (lead ++ Octets.narrow text ++ if ended then "\n" else "") : Act Unit)
  set { editor with gap := !ended }

/-- Write what is worked on. -/
def emitPattern : Editing Unit := do
  let editor ← get
  emit editor.pattern editor.ended

/-- Write what comes behind the line. -/
def emptyQueue : Editing Unit := do
  let editor ← get
  set { editor with queue := [] }
  editor.queue.forM fun entry => do
    match entry with
    | .ok text => emit (String.ofList text.toList.dropLast) true
    | .error path => do
      let content ← (contentOf path : Act _)
      let text := content.toOption.getD []
      if !text.isEmpty then
        emit (String.ofList (Octets.characters text)) false
        modify fun editor => { editor with gap := false }

/-- Take the next line; the flag tells whether there is one. -/
def nextLine (join : Bool) : Editing Bool := do
  let editor ← get
  match editor.rest with
  | [] => return false
  | (line, ended) :: rest =>
    set { editor with
      rest := rest
      number := editor.number + 1
      pattern := if join then editor.pattern ++ "\n" ++ line else line
      ended := ended }
    return true

/-- What is worked on, to be searched. -/
def subject (ignoresCase manyLines : Bool) : Editing Regex.Subject := do
  let editor ← get
  return { text := editor.pattern.toList.toArray, ignoresCase := ignoresCase,
           manyLines := manyLines }

/-- The expression that is given, or the one that was used last. -/
def regexOf (regex : Option Regex) : Editing Regex := do
  match regex with
  | some regex =>
    modify fun editor => { editor with used := some regex }
    return regex
  | none => return (← get).used.getD .empty

/-- Whether an address selects the line. -/
def selects (address : Address) : Editing Bool := do
  let editor ← get
  match address with
  | .line n => return editor.number = n
  | .last => return editor.rest.isEmpty
  | .step first step =>
    return if step = 0 then editor.number = first
      else first ≤ editor.number && (editor.number - first) % step = 0
  | .fits regex ignoresCase manyLines => do
    let regex ← regexOf regex
    return (regex.search (← subject ignoresCase manyLines) 0).isSome

/-- Begin or end the range of an edit. -/
def setRange (place : Nat) (range : Option (Option Nat)) : Editing Unit :=
  modify fun editor =>
    let others := editor.ranges.filter fun entry => entry.1 ≠ place
    { editor with ranges := match range with
        | some stop => (place, stop) :: others
        | none => others }

/-- Whether the line is in the range of an edit. -/
def inRange (place : Nat) (start : Address) (stop : RangeEnd) : Editing Bool := do
  let editor ← get
  let now := editor.number
  match editor.ranges.find? fun entry => entry.1 = place with
  | some (_, some last) =>
    if last ≤ now then setRange place none
    return now ≤ last
  | some (_, none) =>
    match stop with
    | .address address =>
      if ← selects address then setRange place none
      return true
    | _ => return true
  | none =>
    if !(← selects start) then return false
    else
      match stop with
      | .address (.line n) =>
        if now < n then setRange place (some (some n))
      | .address .last =>
        if !editor.rest.isEmpty then setRange place (some none)
      | .address _ => setRange place (some none)
      | .after n =>
        if n ≠ 0 then setRange place (some (some (now + n)))
      | .multiple n =>
        if n ≠ 0 then setRange place (some (some (now + (n - now % n))))
      return true

/-- Whether an edit is made on the line. -/
def isSelected (place : Nat) (selection : Selection) : Editing Bool := do
  let found ← match selection.start, selection.stop with
    | none, _ => pure true
    | some start, none => selects start
    | some start, some stop => inRange place start stop
  return found ≠ selection.negated

/-- A text after changes of case: one for all that comes, and one for the next character. -/
def recased (all next : CaseChange) (text : String) : String :=
  let cs := match all with
    | .upper => text.toList.map Text.upperCase
    | .lower => text.toList.map Text.lowerCase
    | _ => text.toList
  match cs, next with
  | c :: rest, .upperNext => String.ofList (Text.upperCase c :: rest)
  | c :: rest, .lowerNext => String.ofList (Text.lowerCase c :: rest)
  | cs, _ => String.ofList cs

/-- What is put in place of a match. -/
def newText (found : Regex.Match) (subject : Regex.Subject) :
    CaseChange → CaseChange → List NewPart → String
  | _, _, [] => ""
  | all, _, .change change :: rest =>
    match change with
    | .upperNext => newText found subject all .upperNext rest
    | .lowerNext => newText found subject all .lowerNext rest
    | change => newText found subject change .keep rest
  | all, next, part :: rest =>
    let text := match part with
      | .text text => text
      | .group n => found.part subject n
      | .change _ => ""
    recased all next text ++
      newText found subject all (if text = "" then next else .keep) rest

/-- A text with matches replaced, from a place on, and whether any was. Given are the number of the
    next match and the end of the last one. The fuel is more than the number of characters. -/
def replaceMatches (body : Substitution) (regex : Regex) (subject : Regex.Subject) :
    Nat → Nat → Nat → Option Nat → String × Bool
  | 0, start, _, _ => (subject.between start subject.text.size, false)
  | fuel + 1, start, count, before =>
    match regex.search subject start with
    | none => (subject.between start subject.text.size, false)
    | some found =>
      let kept := subject.between start found.start
      let isEmpty := found.start = found.stop
      if isEmpty && before = some found.start then
        let next := String.ofList ((subject.at? found.stop).toList)
        if subject.text.size ≤ found.stop then (kept, false)
        else
          let (rest, any) := replaceMatches body regex subject fuel (found.stop + 1) count none
          (kept ++ next ++ rest, any)
      else
        let isWanted := body.first ≤ count
        let new := if isWanted then newText found subject .keep .keep body.new
          else subject.between found.start found.stop
        if isWanted && !body.all then
          (kept ++ new ++ subject.between found.stop subject.text.size, true)
        else if isEmpty then
          let next := String.ofList ((subject.at? found.stop).toList)
          if subject.text.size ≤ found.stop then (kept ++ new, isWanted)
          else
            let (rest, any) :=
              replaceMatches body regex subject fuel (found.stop + 1) (count + 1) none
            (kept ++ new ++ next ++ rest, any || isWanted)
        else
          let (rest, any) :=
            replaceMatches body regex subject fuel found.stop (count + 1) (some found.stop)
          (kept ++ new ++ rest, any || isWanted)

/-- Write a line to a file. -/
def emitTo (path : String) (line : String) : Act Unit := do
  match ← Act.openPath path .appending with
  | .error _ => return
  | .ok index =>
    let streams := (← Act.process).streams
    Act.setStream 9 index
    let _ ← Act.write 9 (Octets.narrow line ++ "\n")
    Act.setProcess fun process => { process with streams := streams }

/-- Make a substitution. -/
def substitute (body : Substitution) : Editing Unit := do
  let regex ← regexOf body.regex
  let subject ← subject body.ignoresCase body.manyLines
  let (text, any) := replaceMatches body regex subject (2 * subject.text.size + 4) 0 1 none
  if any then
    modify fun editor => { editor with pattern := text, replaced := true }
    if body.prints then emitPattern
    match body.file with
    | some path => emitTo path text
    | none => return

/-- A text with signs for what cannot be seen, in lines of limited length. -/
def listed (text : String) : String :=
  let sign (c : Char) : String :=
    match c with
    | '\\' => "\\\\"
    | '\n' => "\\n"
    | '\t' => "\\t"
    | '\r' => "\\r"
    | c =>
      if c = Char.ofNat 7 then "\\a"
      else if c = Char.ofNat 8 then "\\b"
      else if c = Char.ofNat 12 then "\\f"
      else if c = Char.ofNat 11 then "\\v"
      else if 32 ≤ c.toNat && c.toNat < 127 then String.singleton c
      else "\\" ++ Places.zeroPadded 3 (String.ofList (Nat.toDigits 8 c.toNat))
  let (lines, last) := (text.toList.map sign).foldl (fun (lines, line) piece =>
    if 69 < line.length + piece.length then (lines ++ line ++ "\\\n", piece)
    else (lines, line ++ piece)) ("", "")
  lines ++ last ++ "$"

/-- What is worked on, up to its first newline and behind it. -/
def splitPattern (text : String) : String × Option String :=
  let first := text.toList.takeWhile (· ≠ '\n')
  match text.toList.drop first.length with
  | _ :: rest => (String.ofList first, some (String.ofList rest))
  | [] => (text, none)

/-- Do what a letter stands for, at a place. -/
def runLetter (place : Nat) (letter : Char) : Editing Onward := do
  let editor ← get
  let onward : Onward := .to (place + 1)
  match letter with
  | 'd' => return .drop
  | 'D' =>
    match splitPattern editor.pattern with
    | (_, none) => return .drop
    | (_, some rest) =>
      set { editor with pattern := rest }
      return .restart
  | 'g' =>
    set { editor with pattern := editor.hold }
    return onward
  | 'G' =>
    set { editor with pattern := editor.pattern ++ "\n" ++ editor.hold }
    return onward
  | 'h' =>
    set { editor with hold := editor.pattern }
    return onward
  | 'H' =>
    set { editor with hold := editor.hold ++ "\n" ++ editor.pattern }
    return onward
  | 'x' =>
    set { editor with pattern := editor.hold, hold := editor.pattern }
    return onward
  | 'n' =>
    if editor.rest.isEmpty then return .quit 0 editor.quiet
    else
      if !editor.quiet then emitPattern
      emptyQueue
      let _ ← nextLine false
      return onward
  | 'N' =>
    if editor.rest.isEmpty then return .quit 0 editor.quiet
    else
      emptyQueue
      let _ ← nextLine true
      return onward
  | 'p' =>
    emitPattern
    return onward
  | 'P' =>
    emit (splitPattern editor.pattern).1 true
    return onward
  | '=' =>
    emit (toString editor.number) true
    return onward
  | 'l' =>
    emit (listed (Octets.narrow editor.pattern)) true
    return onward
  | 'z' =>
    set { editor with pattern := "" }
    return onward
  | _ => return onward

/-- Make an edit at a place. -/
def run (place : Nat) (selection : Selection) (edit : Edit) : Editing Onward := do
  let onward : Onward := .to (place + 1)
  match edit with
  | .block _ => return onward
  | .nothing => return onward
  | .substitute body =>
    substitute body
    return onward
  | .exchange pairs =>
    modify fun editor =>
      let change (c : Char) : Char :=
        ((pairs.find? fun pair => pair.1 = c).map (·.2)).getD c
      { editor with pattern := String.ofList (editor.pattern.toList.map change) }
    return onward
  | .insert text =>
    emit (String.ofList text.toList.dropLast) true
    return onward
  | .append text =>
    modify fun editor => { editor with queue := editor.queue ++ [.ok text] }
    return onward
  | .change text =>
    let isLast := ((← get).ranges.find? fun entry => entry.1 = place).isNone
    if selection.stop.isNone || selection.negated || isLast then
      emit (String.ofList text.toList.dropLast) true
    return .drop
  | .jump target => return .to target
  | .jumpIf wanted target =>
    let editor ← get
    set { editor with replaced := false }
    return if editor.replaced = wanted then .to target else onward
  | .quit code silent => return .quit code (silent || (← get).quiet)
  | .readFile path =>
    modify fun editor => { editor with queue := editor.queue ++ [.error path] }
    return onward
  | .writeFile path =>
    emitTo path (← get).pattern
    return onward
  | .letter c => runLetter place c

/-- Make the edits from a place on. The fuel limits how many are made. -/
def runFrom : Nat → Nat → Editing Onward
  | 0, _ => return .finish
  | fuel + 1, place => do
    match (← get).script[place]? with
    | none => return .finish
    | some ⟨selection, edit⟩ =>
      let next ← if ← isSelected place selection then run place selection edit
        else pure (match edit with
          | .block stop => .to stop
          | _ => .to (place + 1))
      match next with
      | .to place => runFrom fuel place
      | next => return next

/-- How many edits are made on one line at most. -/
def editLimit : Nat := 1000000

/-- Edit what is left, line by line. The flag tells whether the pattern of the line before is worked
    on again. The fuel limits the number of turns. -/
def runLines : Nat → Bool → Editing (Option Nat)
  | 0, _ => return none
  | fuel + 1, again => do
    let present ← if again then pure true else nextLine false
    if !present then return none
    else
      if !again then modify fun editor => { editor with replaced := false }
      match ← runFrom editLimit 0 with
      | .quit code silent =>
        if !silent then emitPattern
        if !silent || code = 0 then emptyQueue
        return some code
      | .restart =>
        emptyQueue
        runLines fuel true
      | .drop =>
        emptyQueue
        runLines fuel false
      | _ =>
        if !(← get).quiet then emitPattern
        emptyQueue
        runLines fuel false

end Editing

/-- The lines of a text, each with whether a newline ends it. -/
def markedLines (text : List Char) : List (String × Bool) :=
  let lines := linesOf text
  let ended := text.getLast? = some '\n'
  lines.zipIdx.map fun (line, index) => (line, ended || index + 1 < lines.length)

/-- The files that a script writes. -/
def writtenFiles (script : List SelectedEdit) : List String :=
  script.filterMap fun selected =>
    match selected.edit with
    | .writeFile path => some path
    | .substitute body => body.file
    | _ => none

/-- Edit contents as one. -/
def editWith (script : List SelectedEdit) (quiet : Bool) (content : List Char) :
    Act (Option Nat) := do
  let lines := markedLines (Octets.characters content)
  let zero := script.zipIdx.filterMap fun (selected, place) =>
    match selected.selection.start with
    | some (.line 0) => some (place, none)
    | _ => none
  let editor : Editor :=
    { script := script.toArray, quiet := quiet, rest := lines, ranges := zero }
  let action := Editing.runLines (lines.length + Editing.editLimit) false
  return (← StateT.run action editor).1

/-- Edit a file in its place, and keep the old one under another name if there is an ending for
    it. -/
def editInPlace (script : List SelectedEdit) (quiet : Bool) (name ending path : String) :
    Act (Nat × Bool) := do
  match ← Act.reach path, ← contentOf path with
  | .ok (.node place (.file bytes kind)), .ok content =>
    let index ← Act.addFile ⟨.buffer [] [], true, true⟩
    let streams := (← Act.process).streams
    Act.setStream 1 index
    let code ← editWith script quiet content
    Act.setProcess fun process => { process with streams := streams }
    let text := ((← Act.unreadOf index).toOption).getD []
    if ending ≠ "" then
      match ← Act.reach (path ++ ending) with
      | .ok (.gap other) => Act.setDisk fun disk => disk.put other (.file bytes kind)
      | .ok (.node other _) => Act.setDisk fun disk => disk.put other (.file bytes kind)
      | _ => pure ()
    Act.orphanFiles place
    Act.putBytes place (Octets.toBytes text)
    return (code.getD 0, code.isSome)
  | .ok (.node _ .folder), _ =>
    return (← refuse name ("couldn't edit " ++ path ++ ": not a regular file") 4, false)
  | _, .error fault => return (← refuse name ("can't read " ++ path ++ ": " ++ fault.text) 2, false)
  | _, _ => return (← refuse name ("couldn't edit " ++ path ++ ": not a regular file") 4, false)

/-- Edit files in their places one by one, up to one on which the script quits. -/
def editAll (script : List SelectedEdit) (quiet : Bool) (name ending : String) :
    List String → Act Nat
  | [] => return 0
  | path :: rest => do
    let (status, quits) ← editInPlace script quiet name ending path
    if quits then return status else return max status (← editAll script quiet name ending rest)

/-- The arguments of the program with the option that edits in place, whose value is never an
    argument of its own, taken out; with the ending that it asks for. -/
def takeInPlace : List String → Option String × List String
  | [] => (none, [])
  | arg :: rest =>
    if arg = "--" then (none, arg :: rest)
    else
      let (found, more) := takeInPlace rest
      match arg.toList with
      | '-' :: 'i' :: ending => (some (String.ofList ending), more)
      | '-' :: 'n' :: 'i' :: ending => (some (String.ofList ending), "-n" :: more)
      | '-' :: 'E' :: 'i' :: ending => (some (String.ofList ending), "-E" :: more)
      | '-' :: 'r' :: 'i' :: ending => (some (String.ofList ending), "-r" :: more)
      | _ =>
        if arg = "--in-place" then (some "", more)
        else if arg.startsWith "--in-place=" then
          (some (String.ofList (arg.toList.drop 11)), more)
        else (found, arg :: more)

/-- Edit lines by a script. -/
def sed : Program := fun _ name args =>
  let (inPlace, args) := takeInPlace args
  withOptions { flags := "nErszu", valued := "ef", long := [("quiet", 'n'), ("silent", 'n'),
    ("regexp-extended", 'E'), ("expression", 'e'), ("file", 'f'), ("separate", 's')] } name args 1
    fun parsed => do
      let own := !(parsed.has 'e' || parsed.has 'f')
      let parts ← (parsed.options.filter fun entry => entry.1 = 'e' || entry.1 = 'f').mapM
        fun (letter, value) => do
          if letter = 'e' then return some value
          else
            match ← contentOf value with
            | .ok content =>
              return some (String.ofList (if content.getLast? = some '\n' then content.dropLast
                else content))
            | .error fault =>
              complain name ("couldn't open file " ++ value ++ ": " ++ fault.text)
              return none
      if parts.any (·.isNone) then return 1
      match own, parsed.operands with
      | true, [] =>
        Act.complain ("Usage: " ++ name ++
          " [OPTION]... \x7bscript-only-if-no-other-script\x7d [input-file]...\n")
        return 1
      | _, operands =>
        let text := if own then operands.headD "" else "\n".intercalate (parts.filterMap id)
        let paths := if own then operands.drop 1 else operands
        let extended := parsed.has 'E' || parsed.has 'r'
        let quiet := parsed.has 'n' || text.startsWith "#n\n"
        let script := Octets.wide text
        match EditScript.read extended script with
        | .error fault =>
          match fault with
          | .atPlace words left =>
            let before := Octets.narrow (String.ofList (script.toList.take (script.length - left)))
            refuse name ("-e expression #1, char " ++ toString before.length ++ ": " ++ words) 1
          | .whole words => refuse name ("-e expression #1, char 0: " ++ words) 1
          | .noLabel label =>
            refuse name ("can't find label for jump to " ++ EditScript.cited label) 4
        | .ok script =>
          (writtenFiles script).forM fun path => do
            let _ ← Act.openPath path (.writing true)
          match inPlace with
          | some ending => editAll script quiet name ending paths
          | none =>
            let words (path : String) (fault : SystemFault) : String :=
              if fault = .file .isFolder then "couldn't edit " ++ path ++ ": not a regular file"
              else "can't read " ++ path ++ ": " ++ fault.text
            let (found, status) ← inputsWith words name paths
            let status := if status = 0 then 0 else 2
            if parsed.has 's' then
              let results ← found.mapM fun (_, content) => editWith script quiet content
              return (results.findSome? id).getD status
            else
              let joined := found.foldr (fun (_, content) behind =>
                if behind.isEmpty || content.isEmpty || content.getLast? = some '\n' then
                  content ++ behind
                else content ++ '\n' :: behind) []
              return (← editWith script quiet joined).getD status

end ContractBench.Shell.Program
