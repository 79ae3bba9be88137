import ContractBench.Shell.Field
import ContractBench.Shell.Formula
import ContractBench.Shell.Stream

/-! # What words give

Words are expanded: what stands in them is put in, what was put in outside quotes is split into
fields, and fields that are patterns give the paths that fit them.
-/

namespace ContractBench.Shell

/-- How words are expanded. -/
structure Expander where
  /-- The output of a command. -/
  capture : Command → Act String
  /-- Whether arguments are fields of their own. -/
  inFields : Bool
  /-- Whether text of the script itself is split too. -/
  splitsText : Bool := false

/-- The separators of fields. -/
def separators : Act String := do return (← Act.value? "IFS").getD " \t\n"

/-- What joins arguments to one text. -/
def joint : Act String := do
  return String.ofList ((← separators).toList.take 1)

/-- The letters of the options in the order in which they are shown. -/
def optionOrder : List Char := "ubaCEVvxsnmiIfe".toList

/-- The value of a parameter other than the arguments as a whole. -/
def parameter? (name : String) : Act (Option String) := do
  let process ← Act.process
  match name with
  | "#" => return some (toString process.args.length)
  | "?" => return some (toString process.status)
  | "$" => return some (toString process.shellId)
  | "!" => return process.lastJob.map toString
  | "-" => return some (String.ofList (optionOrder.filter process.options.contains))
  | "0" => return some process.name
  | name =>
    if name.toList.all Char.isDigit then return process.args[name.toNat?.getD 0 - 1]?
    else Act.value? name

/-- Set a variable. -/
def setValue (name value : String) : Act Unit := do
  match ← Act.binding? name with
  | some binding =>
    if binding.fixed then Act.fault (name ++ ": is read only")
    else
      let exported := binding.exported || (← Act.hasOption 'a')
      Act.putBinding { binding with value := some value, exported := exported }
  | none =>
    Act.putBinding { name := name, value := some value, exported := ← Act.hasOption 'a' }

/-- Whether a name stands for the arguments as a whole. -/
def isWhole (name : String) : Bool := name = "@" || name = "*"

/-- The glyphs of a text that is put in. -/
def insertedGlyphs (quoted : Bool) (text : String) : List Glyph :=
  if quoted then Glyph.ofQuoted text else text.toList.map .inserted

/-- The glyphs of all arguments. -/
def argumentGlyphs (expander : Expander) (name : String) (quoted : Bool) : Act (List Glyph) := do
  let args := (← Act.process).args
  if expander.inFields && (!quoted || name = "@") then
    return (args.map (insertedGlyphs quoted)).intersperse [.border] |>.flatten
  else return insertedGlyphs quoted ((← joint).intercalate args)

/-- The whole number that a text is. -/
def wholeNumber (text : String) : Act Int := do
  match Formula.readNumber? text with
  | some n => return n
  | none =>
    if text.toList.all fun c => c = ' ' || (9 ≤ c.toNat && c.toNat ≤ 13) then return 0
    else Act.fault ("Illegal number: " ++ text)

/-- Where formulas have values: among the variables of the process. -/
def formulaScope (text : String) : Formula.Scope Act where
  get name := do wholeNumber ((← Act.value? name).getD "")
  set name value := setValue name (toString value)
  fail fault := Act.fault (fault.message text)

/-- The value of a formula. -/
def formulaValue (text : String) : Act Int := do
  match Formula.read text with
  | .ok formula => formula.value (formulaScope text)
  | .error fault => Act.fault (fault.message text)

/-- A text without the newlines at its end. -/
def dropNewlines (text : String) : String :=
  String.ofList (text.toList.reverse.dropWhile (· = '\n')).reverse

/-- The glyphs of a piece, given how the pieces of the words within it are expanded. -/
def expandPiece (expand : Expander → Word → Act (List Glyph)) (expander : Expander) :
    Piece → Act (List Glyph)
  | .text text true => return Glyph.ofQuoted text
  | .text text false =>
    return text.toList.map (if expander.splitsText then .inserted else .literal)
  | .home => do
    match ← Act.value? "HOME" with
    | some folder => return Glyph.ofQuoted folder
    | none => return [.literal '~']
  | .output body quoted => do
    let text ← expander.capture body
    let kept := text.toList.filter (· ≠ '\x00')
    return insertedGlyphs quoted (dropNewlines (String.ofList kept))
  | .formula body quoted => do
    let text := Glyph.text (← expand { expander with inFields := false } body)
    return insertedGlyphs quoted (toString (← formulaValue text))
  | .parameter name treatment strict word quoted => do
    let text? ← if isWhole name then do
        pure (some ((← joint).intercalate (← Act.process).args))
      else parameter? name
    let isSet := match text? with
      | some text => !strict || text ≠ ""
      | none => false
    let value : Act (List Glyph) :=
      if isWhole name then argumentGlyphs expander name quoted
      else return insertedGlyphs quoted (text?.getD "")
    let other : Act (List Glyph) := do
      let glyphs ← expand { expander with splitsText := true } word
      return if quoted && glyphs.isEmpty then [.nothing] else glyphs
    let needed : Act String := do
      match text? with
      | some text => return text
      | none =>
        if ← Act.hasOption 'u' then Act.fault (name ++ ": parameter not set") else return ""
    let cut (shorten : Pattern → List Char → List Char) : Act (List Glyph) := do
      let text ← needed
      let pattern := Glyph.pattern (← expand { expander with inFields := false } word)
      return insertedGlyphs quoted (String.ofList (shorten pattern text.toList))
    match treatment with
    | .plain => do
      let _ ← needed
      value
    | .size => do return insertedGlyphs quoted (toString (← needed).length)
    | .orElse => if isSet then value else other
    | .instead => if isSet then other else return insertedGlyphs quoted ""
    | .orAssign =>
      if isSet then value
      else do
        let text := Glyph.text (← expand { expander with inFields := false } word)
        if !isName name.toList then Act.fault (name ++ ": bad variable name")
        else
          setValue name text
          return insertedGlyphs quoted text
    | .orComplain =>
      if isSet then value
      else do
        let words := Glyph.text (← expand { expander with inFields := false } word)
        Act.fault (name ++ ": " ++
          if word.isEmpty then "parameter not set" ++ (if strict then " or null" else "")
          else words)
    | .cutStart longest => cut fun pattern => pattern.dropStart longest
    | .cutEnd longest => cut fun pattern => pattern.dropEnd longest
    | .unknown => Act.fault "Bad substitution"

/-- How deep words may lie within words. -/
def wordDepth : Nat := 1000

/-- The glyphs of a word whose words lie in it to a limited depth. -/
def expandWord : Nat → Expander → Word → Act (List Glyph)
  | 0, _, _ => return []
  | depth + 1, expander, word => do
    let parts ← word.mapM (expandPiece (expandWord depth) expander)
    return parts.flatten

/-- The glyphs of a word. -/
def glyphsOf (capture : Command → Act String) (inFields : Bool) (word : Word) :
    Act (List Glyph) :=
  expandWord wordDepth { capture := capture, inFields := inFields } word

/-- The one text that a word gives. -/
def textOf (capture : Command → Act String) (word : Word) : Act String := do
  return Glyph.text (← glyphsOf capture false word)

/-- Whether a character has a meaning in patterns. -/
def isPatternSign (c : Char) : Bool := c = '*' || c = '?' || c = '['

/-- The names in a folder, in octets. -/
def namesIn (path : String) : Act (List String) := do
  match ← Act.reach (if path = "" then "." else path) with
  | .ok (.node place .folder) => return ((← Act.disk).namesIn place).map Octets.ofText
  | _ => return []

/-- Whether a path leads to anything. -/
def isThere (path : String) : Act Bool := do
  match ← Act.reach path with
  | .ok (.node _ _) => return true
  | .ok (.host _) => return true
  | _ => return false

/-- Whether a path leads to a folder. -/
def isFolder (path : String) : Act Bool := do
  match ← Act.reach path with
  | .ok (.node _ .folder) => return true
  | .ok (.host .folder) => return true
  | _ => return false

/-- Characters in pieces between slashes. -/
def splitPath : List Marked → List Marked → List (List Marked)
  | [], piece => [piece.reverse]
  | (c, literal) :: rest, piece =>
    if c = '/' then piece.reverse :: splitPath rest []
    else splitPath rest ((c, literal) :: piece)

/-- The text that a pattern without special parts stands for. -/
def literalText (pattern : Pattern) : String :=
  String.ofList (pattern.filterMap fun part =>
    match part with
    | .char c => some c
    | _ => none)

/-- The paths that fit pieces of a pattern, behind a path that is found already. -/
def pathsFrom : String → List (List Marked) → Act (List String)
  | path, [] => return [path]
  | path, piece :: rest => do
    let pattern := Pattern.ofMarked piece
    if pattern.isLiteral then
      let next := path ++ literalText pattern
      if rest.isEmpty then
        let found ← if literalText pattern = "" then isFolder path else isThere next
        return if found then [next] else []
      else pathsFrom (next ++ "/") rest
    else
      let hidden := piece.head?.map (·.1) = some '.'
      let own := if hidden then [".", ".."] else []
      let names := (own ++ (← namesIn path)).filter fun name =>
        (hidden || !name.startsWith ".") && pattern.fits name.toList
      let found ← names.mapM fun name => do
        if rest.isEmpty then return [path ++ name]
        else if ← isFolder (path ++ name) then pathsFrom (path ++ name ++ "/") rest
        else return []
      return found.flatten

/-- The texts that a field gives: the paths that fit it if it is a pattern, and else its text. -/
def textsOf (glyphs : List Glyph) : Act (List String) := do
  let marked := Glyph.marked glyphs
  let plain := [Glyph.text glyphs]
  if marked.all (fun c => c.2 || !isPatternSign c.1) || (← Act.hasOption 'f') then return plain
  else
    let paths ← pathsFrom "" (splitPath marked [])
    return if paths.isEmpty then plain else Disk.sortNames paths

/-- The fields that a word gives. -/
def fieldsOf (capture : Command → Act String) (word : Word) : Act (List String) := do
  let glyphs ← glyphsOf capture true word
  let fields ← (splitFields (← separators) glyphs).mapM textsOf
  return fields.flatten

end ContractBench.Shell
