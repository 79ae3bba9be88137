import ContractBench.Shell.Expansion
import ContractBench.Shell.Format

/-! # Utilities for variables

The utilities of a shell that set, show and forget variables, arguments and options, and those that
read them from a stream or from arguments.
-/

namespace ContractBench.Shell.Utility

/-- The options that lead some arguments, of which some letters are known, and the other
    arguments. -/
def takeOptions (known : List Char) : List String → Act (List Char × List String)
  | [] => return ([], [])
  | arg :: rest => do
    match arg.toList with
    | '-' :: '-' :: [] => return ([], rest)
    | '-' :: c :: letters =>
      match (c :: letters).find? fun letter => !known.contains letter with
      | some letter => Act.fault ("Illegal option -" ++ String.singleton letter)
      | none =>
        let (more, rest) ← takeOptions known rest
        return (c :: letters ++ more, rest)
    | _ => return ([], arg :: rest)

/-- The whole number, not below zero, that an argument is. -/
def naturalNumber (arg : String) : Act Nat := do
  match arg.toNat? with
  | some n => return n
  | none => Act.fault ("Illegal number: " ++ arg)

/-- A text in single quotes. -/
def singleQuoted (text : String) : String :=
  "'" ++ String.join (text.toList.map fun c =>
    if c = '\'' then "'\"'\"'" else String.singleton c) ++ "'"

/-- A name and the value behind its equals sign, if there is one. -/
def splitSetting (arg : String) : String × Option String :=
  let name := arg.toList.takeWhile (· ≠ '=')
  match arg.toList.drop name.length with
  | _ :: value => (String.ofList name, some (String.ofList value))
  | [] => (arg, none)

/-- Refuse what is no name. -/
def checkName (name : String) : Act Unit := do
  if isName name.toList then return else Act.fault (name ++ ": bad variable name")

/-- Mark a variable, which is made if it is not there. -/
def markBinding (mark : Binding → Binding) (name : String) : Act Unit := do
  let binding := (← Act.binding? name).getD { name := name, value := none }
  Act.putBinding (mark binding)

/-- Show variables, one on a line. -/
def showBindings (lead : String) (wanted : Binding → Bool) : Act Unit := do
  let bindings := ((← Act.process).bindings.filter wanted).mergeSort fun a b => a.name ≤ b.name
  Act.print (String.join (bindings.map fun binding =>
    lead ++ binding.name ++
      (match binding.value with
      | some value => "=" ++ singleQuoted value
      | none => "") ++ "\n"))

/-- Set and mark the variables that arguments name; without any, show those that are marked. -/
def markAll (lead : String) (mark : Binding → Binding) (isMarked : Binding → Bool)
    (args : List String) : Act Nat := do
  let (options, names) ← takeOptions ['p'] args
  if options.isEmpty && !names.isEmpty then
    names.forM fun arg => do
      let (name, value) := splitSetting arg
      checkName name
      if let some value := value then setValue name value
      markBinding mark name
  else showBindings lead isMarked
  return 0

/-- Give variables to programs. -/
def exportVariables : List String → Act Nat :=
  markAll "export " (fun binding => { binding with exported := true }) (·.exported)

/-- Fix variables. -/
def fixVariables : List String → Act Nat :=
  markAll "readonly " (fun binding => { binding with fixed := true }) (·.fixed)

/-- Make variables local to the function that runs. -/
def localVariables (args : List String) : Act Nat := do
  if (← Act.process).calls = 0 then Act.fault "not in a function"
  else
    args.forM fun arg => do
      let (name, value) := splitSetting arg
      if name = "-" then return
      else
        checkName name
        Act.keepBinding name
        if let some value := value then setValue name value
    return 0

/-- Forget variables or functions. -/
def forget (args : List String) : Act Nat := do
  let (options, names) ← takeOptions ['v', 'f'] args
  names.forM fun name => do
    if options.getLast? = some 'f' then
      Act.setProcess fun process =>
        { process with functions := process.functions.filter fun entry => entry.1 ≠ name }
    else
      checkName name
      match ← Act.binding? name with
      | some binding =>
        if binding.fixed then Act.fault (name ++ ": is read only")
        else Act.dropBinding name
      | none => return
  return 0

/-- The long names of options. -/
def optionNames : List (String × Char) :=
  [("errexit", 'e'), ("noglob", 'f'), ("ignoreeof", 'I'), ("interactive", 'i'), ("monitor", 'm'),
   ("noexec", 'n'), ("stdin", 's'), ("xtrace", 'x'), ("verbose", 'v'), ("vi", 'V'), ("emacs", 'E'),
   ("noclobber", 'C'), ("allexport", 'a'), ("notify", 'b'), ("nounset", 'u'),
   ("privileged", 'p'), ("nolog", '_'), ("debug", '_')]

/-- Heed an option, or heed it no more. -/
def setOption (on : Bool) (letter : Char) : Act Unit := do
  if letter = 'm' && on then return
  else if optionNames.any fun entry => entry.2 = letter then
    Act.setProcess fun process =>
      let others := process.options.filter (· ≠ letter)
      { process with options := if on then others ++ [letter] else others }
  else Act.fault ("Illegal option -" ++ String.singleton letter)

/-- Set the options that lead some arguments. What is left are new arguments of the shell, or
    none. -/
def setOptions : List String → Act (Option (List String))
  | [] => return none
  | arg :: rest => do
    match arg.toList with
    | ['-'] => return some rest
    | ['-', '-'] => return some rest
    | [sign, 'o'] =>
      if sign = '-' ∨ sign = '+' then
        match rest with
        | [] =>
          let heeded := (← Act.process).options
          Act.print ("Current option settings\n" ++
            String.join (optionNames.map fun (name, letter) =>
              name ++ String.ofList (List.replicate (16 - name.length) ' ') ++
                (if heeded.contains letter then "on\n" else "off\n")))
          return none
        | name :: rest =>
          match optionNames.find? fun entry => entry.1 = name with
          | some (_, letter) =>
            setOption (sign = '-') letter
            setOptions rest
          | none => Act.fault ("Illegal option -o " ++ name)
      else return some (arg :: rest)
    | '-' :: letters =>
      letters.forM (setOption true)
      setOptions rest
    | '+' :: letters =>
      letters.forM (setOption false)
      setOptions rest
    | _ => return some (arg :: rest)

/-- Set options and arguments; without any, show all variables. -/
def set (args : List String) : Act Nat := do
  if args.isEmpty then showBindings "" (·.value.isSome)
  else
    match ← setOptions args with
    | some args =>
      Act.setProcess fun process => { process with args := args, optionOffset := 0 }
    | none => return 0
  return 0

/-- Drop arguments from the front. -/
def shift (args : List String) : Act Nat := do
  let count ← match args.head? with
    | some arg => naturalNumber arg
    | none => pure 1
  let process ← Act.process
  if process.args.length < count then Act.fault "can't shift that many"
  else
    Act.setProcess fun process =>
      { process with args := process.args.drop count, optionOffset := 0 }
    return 0

/-- The glyphs of a line that some characters begin, the number of characters it takes, and whether
    its end was there. A backslash keeps a character from separating, and cancels a newline. -/
def lineGlyphs (verbatim : Bool) : List Char → List Glyph × Nat × Bool
  | [] => ([], 0, false)
  | '\n' :: _ => ([], 1, true)
  | '\\' :: c :: rest =>
    if verbatim then
      let (glyphs, count, ended) := lineGlyphs verbatim (c :: rest)
      (.inserted '\\' :: glyphs, count + 1, ended)
    else
      let (glyphs, count, ended) := lineGlyphs verbatim rest
      (if c = '\n' then glyphs else .quoted c :: glyphs, count + 2, ended)
  | c :: rest =>
    let (glyphs, count, ended) := lineGlyphs verbatim rest
    (if c = '\\' && !verbatim then glyphs else .inserted c :: glyphs, count + 1, ended)

/-- Whether a glyph is a separator, of white space or of another kind. -/
def isSeparator (separators : List Char) (blank : Bool) : Glyph → Bool
  | .inserted c => separators.contains c && Splitting.isBlank c = blank
  | _ => false

/-- Drop white space that separates, from the front. -/
def dropBlanks (separators : List Char) (glyphs : List Glyph) : List Glyph :=
  glyphs.dropWhile (isSeparator separators true)

/-- The last field of a line: what is left of it, without white space at its end, and without a
    separator if it is one field that a single one ends. -/
def lastField (separators : List Char) (glyphs : List Glyph) : List Glyph :=
  let trimmed := (dropBlanks separators glyphs.reverse).reverse
  let isAny (glyph : Glyph) : Bool :=
    isSeparator separators true glyph || isSeparator separators false glyph
  let field := trimmed.takeWhile (!isAny ·)
  let after := dropBlanks separators (trimmed.drop field.length)
  if after.length = 1 && after.all (isSeparator separators false) then field else trimmed

/-- A line in as many fields as are asked for. -/
def lineFields (separators : List Char) : Nat → List Glyph → List (List Glyph)
  | 0, _ => []
  | 1, glyphs => [lastField separators (dropBlanks separators glyphs)]
  | count + 1, glyphs =>
    let glyphs := dropBlanks separators glyphs
    let isAny (glyph : Glyph) : Bool :=
      isSeparator separators true glyph || isSeparator separators false glyph
    let field := glyphs.takeWhile (!isAny ·)
    let rest := dropBlanks separators (glyphs.drop field.length)
    let rest := match rest with
      | glyph :: more =>
        if isSeparator separators false glyph then dropBlanks separators more else rest
      | [] => []
    field :: lineFields separators count rest

/-- Read a line into variables; the last of them takes what is left. -/
def readInto (args : List String) : Act Nat := do
  let rec options (verbatim : Bool) : List String → Act (Bool × List String)
    | [] => return (verbatim, [])
    | "--" :: rest => return (verbatim, rest)
    | "-r" :: rest => options true rest
    | "-p" :: _ :: rest => options verbatim rest
    | arg :: rest => do
      match arg.toList with
      | '-' :: c :: _ =>
        if c = 'r' then options true rest
        else Act.fault ("Illegal option -" ++ String.singleton c)
      | _ => return (verbatim, arg :: rest)
  let (verbatim, names) ← options false args
  if names.isEmpty then Act.fault "arg count"
  else
    let (line, status) ← match ← Act.unread 0 with
      | .ok (index, text) => do
        let (glyphs, count, ended) := lineGlyphs verbatim text
        Act.pass index count
        pure (glyphs, if ended then 0 else 1)
      | .error _ => pure ([], 1)
    let line := line.filter fun glyph => glyph.char? ≠ some '\x00'
    let fields := lineFields (← separators).toList names.length line
    (names.zip fields).forM fun (name, field) => do
      checkName name
      setValue name (Glyph.text field)
    return status

/-- The number in the variable that says which argument is read next. -/
def optionIndex : Act Nat := do
  return (((← Act.value? "OPTIND").bind String.toNat?).getD 1).max 1

/-- Whether a letter is among some options, and whether it takes an argument. -/
def findOption (known : List Char) (letter : Char) : Option Bool :=
  match known with
  | [] => none
  | c :: rest =>
    if c = letter ∧ c ≠ ':' then some (rest.head? = some ':') else findOption rest letter

/-- Read the next option from arguments into a variable. -/
def nextOption (args : List String) : Act Nat := do
  match args with
  | known :: name :: more =>
    let args ← if more.isEmpty then do pure (← Act.process).args else pure more
    let silent := known.startsWith ":"
    let index ← optionIndex
    let offset := (← Act.process).optionOffset
    let arg := ((args[index - 1]?).getD "").toList
    let finish (index offset : Nat) (letter : Char) : Act Unit := do
      Act.setProcess fun process => { process with optionOffset := offset }
      Act.forceValue "OPTIND" (toString index)
      checkName name
      setValue name (String.singleton letter)
    let within := 0 < offset && offset < arg.length
    if !within && (arg.head? ≠ some '-' || arg.length = 1) then
      Act.dropBinding "OPTARG"
      finish index 0 '?'
      return 1
    else if !within && String.ofList arg = "--" then
      Act.dropBinding "OPTARG"
      finish (index + 1) 0 '?'
      return 1
    else
      let place := if within then offset else 1
      let letter := (arg[place]?).getD '?'
      let isLast := arg.length ≤ place + 1
      let (nextIndex, nextOffset) := if isLast then (index + 1, 0) else (index, place + 1)
      match findOption known.toList letter with
      | none =>
        if silent then Act.forceValue "OPTARG" (String.singleton letter)
        else
          Act.complain ("Illegal option -" ++ String.singleton letter)
          Act.dropBinding "OPTARG"
        finish nextIndex nextOffset '?'
        return 0
      | some false =>
        Act.forceValue "OPTARG" ""
        finish nextIndex nextOffset letter
        return 0
      | some true =>
        if !isLast then
          Act.forceValue "OPTARG" (String.ofList (arg.drop (place + 1)))
          finish (index + 1) 0 letter
          return 0
        else
          match args[index]? with
          | some value =>
            Act.forceValue "OPTARG" value
            finish (index + 2) 0 letter
            return 0
          | none =>
            if silent then
              Act.forceValue "OPTARG" (String.singleton letter)
              finish (index + 1) 0 ':'
            else
              Act.complain ("No arg for -" ++ String.singleton letter ++ " option")
              Act.dropBinding "OPTARG"
              finish (index + 1) 0 '?'
            return 0
  | _ => Act.fault "Usage: getopts optstring var [arg]"

end ContractBench.Shell.Utility
